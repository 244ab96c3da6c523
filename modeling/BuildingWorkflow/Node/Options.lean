import BuildingWorkflow.Node.Choices
import BuildingWorkflow.Node.Kind
import BuildingWorkflow.Options.Bag
import BuildingWorkflow.Value.Text

/-!
The options of each kind of node.

`NodeOptions.read` turns a bag of raw options into the options of a kind, and `NodeOptions.bag`
writes options back as a bag under their plain names. Unknown keys are refused.
-/
namespace BuildingWorkflow

open Scalar

structure SourceOptions where
  /-- The model to feed into the graph; the latest one if there is none. -/
  model : Option String

structure ParameterRange where
  least : Binary64
  most : Binary64
deriving DecidableEq

structure ParameterOptions where
  value : Value
  type : ParameterType
  /-- The items of a list parameter, where they are kept apart from the value. -/
  items : Option String
  range : Option ParameterRange

structure GeometryOptions where
  category : String
  openings : Bool
  /-- A matter of display alone. -/
  actualGeometry : Bool

structure FilterOptions where
  type : FilterType
  property : String
  operator : FilterOperator
  value : String
  set : Option String

structure TransformOptions where
  transform : Transform

structure QuantityOptions where
  measure : Measure
  grouping : Grouping
  unit : String

structure PropertyOptions where
  name : String
  action : PropertyAction
  value : Value
  set : String
  useValueInput : Bool

structure ClassificationOptions where
  system : String
  action : ClassificationAction
  code : String

structure SpatialOptions where
  query : SpatialQuery
  distance : Binary64

structure RelationshipOptions where
  relation : Relation
  direction : Direction

structure AnalysisOptions where
  type : AnalysisType
  tolerance : Binary64
  metric : SpaceMetric
  seed : Option Int

structure ExportOptions where
  format : ExportFormat
  fileName : String
  properties : String

structure WatchOptions where
  display : DisplayMode
  autoUpdate : Bool

structure ViewerOptions where
  view : ViewMode
  autoUpdate : Bool

/-- The options of a node, which also say what kind of node it is. -/
inductive NodeOptions
  | source (options : SourceOptions)
  | parameter (options : ParameterOptions)
  | geometry (options : GeometryOptions)
  | filter (options : FilterOptions)
  | transform (options : TransformOptions)
  | quantity (options : QuantityOptions)
  | property (options : PropertyOptions)
  | classification (options : ClassificationOptions)
  | spatial (options : SpatialOptions)
  | relationship (options : RelationshipOptions)
  | analysis (options : AnalysisOptions)
  | exporter (options : ExportOptions)
  | watch (options : WatchOptions)
  | viewer (options : ViewerOptions)

/-- The columns of an export: the parts between commas that are not blank. -/
def ExportOptions.columns (options : ExportOptions) : List String :=
  ((cutText ',' options.properties).map trim).filter (· != "")

namespace NodeOptions

def kind : NodeOptions → NodeKind
  | source _ => .source
  | parameter _ => .parameter
  | geometry _ => .geometry
  | filter _ => .filter
  | transform _ => .transform
  | quantity _ => .quantity
  | property _ => .property
  | classification _ => .classification
  | spatial _ => .spatial
  | relationship _ => .relationship
  | analysis _ => .analysis
  | exporter _ => .exporter
  | watch _ => .watch
  | viewer _ => .viewer

/-! ## Reading -/

/-- A bag nested in an option, or null for none. -/
def optionalBag {α : Type} (record : String) (read : Bag → Reading α) :
    Value → Reading (Option α)
  | .null => .ok none
  | .map bag => (read bag).map some
  | _ => .refused [⟨[], .notRecord record⟩]

def readRange (bag : Bag) : Reading ParameterRange :=
  closed bag [spellings "min", spellings "max"] <|
    ParameterRange.mk <$> namedOption bag "min" 0 number <*> namedOption bag "max" 100 number

/-- A value to compare with as text; unquoted truth values are in lower case. -/
def comparisonText : Value → String
  | .null => ""
  | .bool b => lower (boolText b)
  | v => v.display

/-- The older name of space analyses is taken too. -/
def readAnalysisType : Reader AnalysisType := fun v =>
  match normalized v with
  | .text "spatial" => .ok .space
  | v => choice AnalysisType v

/-- The names of the options of a kind, in order. -/
def optionNames : NodeKind → List String
  | .source => ["model_id"]
  | .parameter => ["value", "param_type", "list_items", "range"]
  | .geometry => ["element_type", "include_openings", "use_actual_geometry"]
  | .filter => ["filter_type", "property", "operator", "value", "pset_name"]
  | .transform => ["translate_x", "translate_y", "translate_z", "rotate_x", "rotate_y", "rotate_z",
      "scale_x", "scale_y", "scale_z"]
  | .quantity => ["quantity_type", "group_by", "unit"]
  | .property => ["property_name", "action", "property_value", "target_pset", "use_value_input"]
  | .classification => ["system", "action", "code"]
  | .spatial => ["query_type", "distance"]
  | .relationship => ["relation_type", "direction"]
  | .analysis => ["analysis_type", "tolerance", "metric", "seed"]
  | .exporter => ["format", "file_name", "properties"]
  | .watch => ["display_mode", "auto_update"]
  | .viewer => ["view_mode", "auto_update"]

/-- The spellings of an option; the file name of an export has one more. -/
def optionSpellings (kind : NodeKind) (name : String) : List String :=
  if kind = .exporter && name = "file_name" then ["fileName", "filename", "file_name"]
  else spellings name

def readTriple (bag : Bag) (name : String) (default : Binary64) : Reading Triple :=
  Triple.mk <$> namedOption bag (name ++ "_x") default number
    <*> namedOption bag (name ++ "_y") default number
    <*> namedOption bag (name ++ "_z") default number

def readFields (kind : NodeKind) (bag : Bag) : Reading NodeOptions :=
  let option {α : Type} (name : String) (default : α) (read : Reader α) :=
    optionAt bag (optionSpellings kind name) default (.ofScalar read)
  match kind with
  | .source => source <$> SourceOptions.mk <$> option "model_id" none (optional text)
  | .parameter => parameter <$> (ParameterOptions.mk <$> option "value" (.text "") any
      <*> option "param_type" .text (looseChoice ParameterType)
      <*> option "list_items" none (optional text)
      <*> optionAt bag (spellings "range") none (optionalBag "ParameterRange" readRange))
  | .geometry => geometry <$> (GeometryOptions.mk <$> option "element_type" "all" text
      <*> option "include_openings" true flag
      <*> option "use_actual_geometry" false flag)
  | .filter => filter <$> (FilterOptions.mk <$> option "filter_type" .property (choice FilterType)
      <*> option "property" "" text
      <*> option "operator" .equals (choice FilterOperator)
      <*> option "value" "" (fun v => .ok (comparisonText v))
      <*> option "pset_name" none (optional text))
  | .transform => transform <$> TransformOptions.mk <$> (Transform.mk
      <$> readTriple bag "translate" 0
      <*> readTriple bag "rotate" 0
      <*> readTriple bag "scale" 1)
  | .quantity => quantity <$> (QuantityOptions.mk
      <$> option "quantity_type" .area (looseChoice Measure)
      <*> option "group_by" .none (looseChoice Grouping)
      <*> option "unit" "" text)
  | .property => property <$> (PropertyOptions.mk <$> option "property_name" "" text
      <*> option "action" .get (looseChoice PropertyAction)
      <*> option "property_value" (.text "") any
      <*> option "target_pset" "any" text
      <*> option "use_value_input" false flag)
  | .classification => classification <$> (ClassificationOptions.mk
      <$> option "system" "uniclass" text
      <*> option "action" .get (looseChoice ClassificationAction)
      <*> option "code" "" text)
  | .spatial => spatial <$> (SpatialOptions.mk
      <$> option "query_type" .contained (choice SpatialQuery)
      <*> option "distance" 1 (numberFrom 0))
  | .relationship => relationship <$> (RelationshipOptions.mk
      <$> option "relation_type" .containment (choice Relation)
      <*> option "direction" .outgoing (choice Direction))
  | .analysis => analysis <$> (AnalysisOptions.mk <$> option "analysis_type" .clash readAnalysisType
      <*> option "tolerance" 10 (numberAbove 0)
      <*> option "metric" .area (choice SpaceMetric)
      <*> option "seed" none (optional whole))
  | .exporter => exporter <$> (ExportOptions.mk <$> option "format" .csv (looseChoice ExportFormat)
      <*> option "file_name" "export" text
      <*> option "properties" "Name,Type,Material" text)
  | .watch => watch <$> (WatchOptions.mk <$> option "display_mode" .table (choice DisplayMode)
      <*> option "auto_update" false flag)
  | .viewer => viewer <$> (ViewerOptions.mk <$> option "view_mode" .shaded (choice ViewMode)
      <*> option "auto_update" false flag)

/-- The name under which a record of options is asked for when something else is given. -/
def recordName : NodeKind → String
  | .source => "SourceConfig"
  | .parameter => "ParameterConfig"
  | .geometry => "GeometryConfig"
  | .filter => "FilterConfig"
  | .transform => "TransformConfig"
  | .quantity => "QuantityConfig"
  | .property => "PropertyConfig"
  | .classification => "ClassificationConfig"
  | .spatial => "SpatialConfig"
  | .relationship => "RelationshipConfig"
  | .analysis => "AnalysisConfig"
  | .exporter => "ExportConfig"
  | .watch => "WatchConfig"
  | .viewer => "ViewerConfig"

/-- The options of a kind read from a bag. -/
def read (kind : NodeKind) (bag : Bag) : Except (List OptionFault) NodeOptions :=
  (closed bag ((optionNames kind).map (optionSpellings kind)) (readFields kind bag)).toExcept

/-- The options of a kind read from any value; what counts as nothing is an empty bag. -/
def ofValue (kind : NodeKind) (raw : Value) : Except (List OptionFault) NodeOptions :=
  if raw.truthy then
    match raw with
    | .map bag => read kind bag
    | _ => .error [⟨[], .notRecord (recordName kind)⟩]
  else read kind []

/-! ## Writing -/

def optionalText : Option String → Value
  | some s => .text s
  | none => .null

def tripleOptions (name : String) (t : Triple) : Bag :=
  [(name ++ "_x", .float t.x), (name ++ "_y", .float t.y), (name ++ "_z", .float t.z)]

def rangeOptions (r : ParameterRange) : Value :=
  .map [("min", .float r.least), ("max", .float r.most)]

/-- The options as a bag, by their names and in their order. -/
def bag : NodeOptions → Bag
  | source o => [("model_id", optionalText o.model)]
  | parameter o => [("value", o.value), ("param_type", Choice.value o.type),
      ("list_items", optionalText o.items), ("range", o.range.elim .null rangeOptions)]
  | geometry o => [("element_type", .text o.category), ("include_openings", .bool o.openings),
      ("use_actual_geometry", .bool o.actualGeometry)]
  | filter o => [("filter_type", Choice.value o.type), ("property", .text o.property),
      ("operator", Choice.value o.operator), ("value", .text o.value),
      ("pset_name", optionalText o.set)]
  | transform o => tripleOptions "translate" o.transform.offset ++
      tripleOptions "rotate" o.transform.rotation ++ tripleOptions "scale" o.transform.scale
  | quantity o => [("quantity_type", Choice.value o.measure), ("group_by", Choice.value o.grouping),
      ("unit", .text o.unit)]
  | property o => [("property_name", .text o.name), ("action", Choice.value o.action),
      ("property_value", o.value), ("target_pset", .text o.set),
      ("use_value_input", .bool o.useValueInput)]
  | classification o => [("system", .text o.system), ("action", Choice.value o.action),
      ("code", .text o.code)]
  | spatial o => [("query_type", Choice.value o.query), ("distance", .float o.distance)]
  | relationship o => [("relation_type", Choice.value o.relation),
      ("direction", Choice.value o.direction)]
  | analysis o => [("analysis_type", Choice.value o.type), ("tolerance", .float o.tolerance),
      ("metric", Choice.value o.metric), ("seed", o.seed.elim .null .int)]
  | exporter o => [("format", Choice.value o.format), ("file_name", .text o.fileName),
      ("properties", .text o.properties)]
  | watch o => [("display_mode", Choice.value o.display), ("auto_update", .bool o.autoUpdate)]
  | viewer o => [("view_mode", Choice.value o.view), ("auto_update", .bool o.autoUpdate)]

end NodeOptions

end BuildingWorkflow
