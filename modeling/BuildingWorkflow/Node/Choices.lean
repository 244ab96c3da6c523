import BuildingWorkflow.Element.Measure
import BuildingWorkflow.Options.Scalar

/-!
The named choices among which the options of nodes pick.
-/
namespace BuildingWorkflow

inductive ParameterType
  | number
  | text
  | boolean
  | list
deriving DecidableEq

instance : Choice ParameterType where
  all := [.number, .text, .boolean, .list]
  name
    | .number => "number"
    | .text => "text"
    | .boolean => "boolean"
    | .list => "list"

/-- What a filter looks at. -/
inductive FilterType
  | elementType
  | psetExists
  | property
  | id
  | name
  | description
  | level
deriving DecidableEq

instance : Choice FilterType where
  all := [.elementType, .psetExists, .property, .id, .name, .description, .level]
  name
    | .elementType => "elementType"
    | .psetExists => "psetExists"
    | .property => "property"
    | .id => "id"
    | .name => "name"
    | .description => "description"
    | .level => "level"

inductive FilterOperator
  | equals
  | notEquals
  | contains
  | startsWith
  | endsWith
  | greaterThan
  | lessThan
  | isEmpty
  | isNotEmpty
  | present
  | absent
deriving DecidableEq

instance : Choice FilterOperator where
  all := [.equals, .notEquals, .contains, .startsWith, .endsWith, .greaterThan, .lessThan,
    .isEmpty, .isNotEmpty, .present, .absent]
  name
    | .equals => "equals"
    | .notEquals => "notEquals"
    | .contains => "contains"
    | .startsWith => "startsWith"
    | .endsWith => "endsWith"
    | .greaterThan => "greaterThan"
    | .lessThan => "lessThan"
    | .isEmpty => "isEmpty"
    | .isNotEmpty => "isNotEmpty"
    | .present => "exists"
    | .absent => "notExists"

instance : Choice Measure where
  all := [.length, .area, .volume, .count, .weight]
  name
    | .length => "length"
    | .area => "area"
    | .volume => "volume"
    | .count => "count"
    | .weight => "weight"

/-- By what a quantity takeoff is grouped. -/
inductive Grouping
  | none
  | type
  | material
  | level
deriving DecidableEq

instance : Choice Grouping where
  all := [.none, .type, .material, .level]
  name
    | .none => "none"
    | .type => "type"
    | .material => "material"
    | .level => "level"

inductive PropertyAction
  | get
  | set
  | add
  | remove
deriving DecidableEq

instance : Choice PropertyAction where
  all := [.get, .set, .add, .remove]
  name
    | .get => "get"
    | .set => "set"
    | .add => "add"
    | .remove => "remove"

inductive ClassificationAction
  | get
  | set
deriving DecidableEq

instance : Choice ClassificationAction where
  all := [.get, .set]
  name
    | .get => "get"
    | .set => "set"

inductive SpatialQuery
  | contained
  | containing
  | intersecting
  | touching
  | withinDistance
deriving DecidableEq

instance : Choice SpatialQuery where
  all := [.contained, .containing, .intersecting, .touching, .withinDistance]
  name
    | .contained => "contained"
    | .containing => "containing"
    | .intersecting => "intersecting"
    | .touching => "touching"
    | .withinDistance => "within-distance"

inductive Relation
  | containment
  | aggregation
  | voiding
  | material
  | spaceBoundary
deriving DecidableEq

instance : Choice Relation where
  all := [.containment, .aggregation, .voiding, .material, .spaceBoundary]
  name
    | .containment => "containment"
    | .aggregation => "aggregation"
    | .voiding => "voiding"
    | .material => "material"
    | .spaceBoundary => "space-boundary"

inductive Direction
  | outgoing
  | incoming
  | both
deriving DecidableEq

instance : Choice Direction where
  all := [.outgoing, .incoming, .both]
  name
    | .outgoing => "outgoing"
    | .incoming => "incoming"
    | .both => "both"

inductive AnalysisType
  | clash
  | adjacency
  | space
  | path
  | visibility
deriving DecidableEq

instance : Choice AnalysisType where
  all := [.clash, .adjacency, .space, .path, .visibility]
  name
    | .clash => "clash"
    | .adjacency => "adjacency"
    | .space => "space"
    | .path => "path"
    | .visibility => "visibility"

/-- What a space analysis reports. -/
inductive SpaceMetric
  | area
  | volume
  | occupancy
  | circulation
deriving DecidableEq

instance : Choice SpaceMetric where
  all := [.area, .volume, .occupancy, .circulation]
  name
    | .area => "area"
    | .volume => "volume"
    | .occupancy => "occupancy"
    | .circulation => "circulation"

inductive ExportFormat
  | csv
  | json
  | excel
  | glb
  | ifc
deriving DecidableEq

instance : Choice ExportFormat where
  all := [.csv, .json, .excel, .glb, .ifc]
  name
    | .csv => "csv"
    | .json => "json"
    | .excel => "excel"
    | .glb => "glb"
    | .ifc => "ifc"

inductive DisplayMode
  | table
  | raw
  | summary
deriving DecidableEq

instance : Choice DisplayMode where
  all := [.table, .raw, .summary]
  name
    | .table => "table"
    | .raw => "raw"
    | .summary => "summary"

inductive ViewMode
  | shaded
  | wireframe
  | hidden
deriving DecidableEq

instance : Choice ViewMode where
  all := [.shaded, .wireframe, .hidden]
  name
    | .shaded => "shaded"
    | .wireframe => "wireframe"
    | .hidden => "hidden"

end BuildingWorkflow
