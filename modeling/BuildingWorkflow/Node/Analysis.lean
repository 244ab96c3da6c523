import BuildingWorkflow.Element.Measure
import BuildingWorkflow.Node.Spatial
import BuildingWorkflow.Random.Digest
import BuildingWorkflow.Random.Source

/-!
Analysis nodes: schematic reports over a collection.

Clashes are sampled, not computed from geometry. The sampling draws from any source of random
numbers; a node uses the generator with the configured seed, or with one that the identifiers of the
elements determine.
-/
namespace BuildingWorkflow

/-! ## Clashes -/

/-- A sampled clash of the element at a position with an element of the reference collection. -/
structure Clash where
  position : Nat
  element : Element
  partner : Element
  distance : Binary64
  point : Triple

/-- How many elements are examined. -/
def maxClashCandidates : Nat := 20

def clashProbability : Binary64 := tenths 3

/-- A fraction times a scale, with three decimal places. -/
def scaled (fraction scale : Binary64) : Binary64 := (fraction * scale).roundPlaces 3

variable {σ : Type}

/-- Examines elements one after the other: each draws its partner, then whether the two clash, and
if so the distance and the point. -/
def sampleClashes (source : RandomSource σ) (tolerance : Binary64) (first : Element)
    (others : List Element) : Nat → List Element → σ → List Clash
  | _, [], _ => []
  | position, element :: rest, s =>
      let (i, s) := source.index (others.length + 1) s
      let (chance, s) := source.fraction s
      if chance.less clashProbability then
        let (distance, s) := source.fraction s
        let (x, s) := source.fraction s
        let (y, s) := source.fraction s
        let (z, s) := source.fraction s
        { position := position
          element := element
          partner := (first :: others).getD i first
          distance := (distance * tolerance / 2).roundPlaces 3
          point := ⟨scaled x 10, scaled y 10, scaled z 3⟩ } ::
            sampleClashes source tolerance first others (position + 1) rest s
      else sampleClashes source tolerance first others (position + 1) rest s

/-- The clashes of the first elements of a collection with a reference collection, which is not
empty. -/
def findClashes (source : RandomSource σ) (s : σ) (tolerance : Binary64) (elements : List Element)
    (first : Element) (others : List Element) : List Clash :=
  sampleClashes source tolerance first others 0 (elements.take maxClashCandidates) s

/-- The seed that the identifiers of some elements determine. -/
def seedOf (elements : List Element) : Int :=
  Digest.head (elements.flatMap fun e => e.id.toUTF8.toList ++ [0])

/-! ## Reports -/

/-- Named findings, in order. -/
abbrev Findings := List (String × Value)

def countValue (n : Nat) : Value := .int n

def Element.summary (e : Element) : Value :=
  .map [("id", .text e.id), ("type", .text e.type), ("name", e.name?.elim .null .text)]

def pointValue (x y z : Value) : Findings := [("x", x), ("y", y), ("z", z)]

def Clash.name (c : Clash) : String := s!"clash-{c.position}"

def Clash.value (c : Clash) : Value :=
  .map [("id", .text c.name), ("element1", c.element.summary), ("element2", c.partner.summary),
    ("distance", .float c.distance),
    ("point", .map (pointValue (.float c.point.x) (.float c.point.y) (.float c.point.z)))]

def clashReport (clashes : List Clash) (tolerance : Binary64) : Findings :=
  [("clashCount", countValue clashes.length), ("clashes", .list (clashes.map Clash.value)),
    ("tolerance", .float tolerance)]

/-- The sum of a measure; a space without it counts an assumed one, other elements nothing. -/
def spaceTotal (m : Measure) (assumed total : Binary64) : List Element → Except Fault Binary64
  | [] => .ok total
  | e :: rest => do
      match ← e.measure? m with
      | some x => spaceTotal m assumed (total + x) rest
      | none => spaceTotal m assumed (if e.isType ["IfcSpace"] then total + assumed else total) rest

def rounded (places : Nat) (x : Binary64) : Value := .float (x.roundPlaces places)

/-- The share of an area that circulation takes. -/
def circulationShare : Binary64 := tenths 3

def spaceReport (metric : SpaceMetric) (elements : List Element) : Except Fault Findings := do
  let size ← intToFloat elements.length
  match metric with
  | .volume =>
      let volume ← spaceTotal .volume 60 0 elements
      return [("totalVolume", rounded 2 volume), ("volumePerElement", rounded 2 (volume / size))]
  | metric =>
      let area ← spaceTotal .area 20 0 elements
      match metric with
      | .occupancy =>
          let persons ← wholeFloor (area / 10)
          let density ← if area.isZero then pure 0 else do
            pure (((← intToFloat persons) / area).roundPlaces 4)
          return [("occupancy", .int persons), ("density", .float density)]
      | .circulation =>
          return [("circulation", rounded 2 (area * circulationShare)),
            ("program", rounded 2 (area * (1 - circulationShare)))]
      | _ => return [("totalArea", rounded 2 area), ("areaPerElement", rounded 2 (area / size))]

/-- The leading elements, each with a number of neighbours from one to three. -/
def adjacencyReport (elements : List Element) : Except Fault Findings := do
  let adjacent ← leadingShare elements (tenths 4)
  let details := adjacent.mapIdx fun i e =>
    Value.map [("id", .text e.id), ("adjacentTo", countValue (1 + i % 3))]
  return [("adjacentElements", countValue adjacent.length), ("details", .list details)]

/-- The stops of the fixed path. -/
def waypoints : List (Int × Int × Int) :=
  [(0, 0, 0), (10, 0, 0), (10, 20, 0), (30, 20, 0), (30, 0, 0), (40, 0, 0)]

def pathReport : Findings :=
  [("pathLength", .float (tenths 425)),
    ("waypoints", .list (waypoints.map fun (x, y, z) =>
      .map (pointValue (.int x) (.int y) (.int z))))]

/-- The fixed points of view with the tenths of the elements that each one sees. -/
def viewpoints : List (Int × Int × Nat) := [(0, 0, 5), (10, 10, 7), (20, 0, 6)]

/-- A share of a number of elements, rounded down. -/
def shareOf (n : Nat) (share : Binary64) : Except Fault Value := do
  return .int (← wholeFloor ((← intToFloat n) * share))

def visibilityReport (elements : List Element) : Except Fault Findings := do
  let size := elements.length
  let views ← viewpoints.mapM fun (x, y, share) => do
    let seen ← shareOf size (tenths share)
    return Value.map (pointValue (.int x) (.int y) (.float (tenths 17)) ++ [("visibleCount", seen)])
  return [("visibleElements", ← shareOf size (tenths 6)),
    ("visibilityScore", .float (.ofDecimal false 75 (-2))), ("viewpoints", .list views)]

/-! ## The node -/

def AnalysisOptions.report (options : AnalysisOptions) (inputs : Inputs)
    (elements : List Element) : Except Fault Findings :=
  match options.type with
  | .clash => do
      match (← inputs.collection referenceInlet).elements with
      | [] => throw (.node "No reference elements for clash detection" [])
      | first :: others =>
          let seed := options.seed.getD (seedOf (elements ++ first :: others))
          return clashReport
            (findClashes twister (Twister.ofSeed seed) options.tolerance elements first others)
            options.tolerance
  | .space => spaceReport options.metric elements
  | .adjacency => adjacencyReport elements
  | .path => .ok pathReport
  | .visibility => visibilityReport elements

/-- The report on a collection that is not empty, under the name of the analysis. -/
def AnalysisOptions.evaluate (options : AnalysisOptions) (inputs : Inputs) :
    Except Fault NodeResult := do
  let source ← inputs.main
  let name := Value.text (Choice.name options.type)
  if source.elements.isEmpty then
    throw (.node "No elements to analyze" [("analysis_type", name)])
  let report ← options.report inputs source.elements
  return .aggregate (.ofList (("analysisType", name) :: report)) ""

end BuildingWorkflow
