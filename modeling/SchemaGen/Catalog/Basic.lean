import SchemaGen.Catalog.Loader

/-!
# Catalogs

Which schema exports which name, while one schema is compiled. The schemas of a catalog are its origins,
the local one first, and a name belongs to the first origin that exports it: local names shadow
imported ones, and of two imports the one met first wins. In strict mode the second case is a
fault, and the first still is not.
-/

set_option autoImplicit false

namespace SchemaGen

/-- One schema of a catalog. -/
structure Origin where
  schema : String
  path : String
  /-- The names it exports, in file order, repetitions included. -/
  exports : List String
  objects : List SchemaObject
deriving Repr, DecidableEq, Inhabited

/-- The origin of a schema. -/
def Origin.ofSchema (s : Schema) : Origin where
  schema := s.name
  path := s.path
  exports := (s.objects.filter (·.type.isExported)).map (·.name)
  objects := s.objects

/-- The C++ primitives of the fundamental data types. -/
def fundamentalTypes : List (String × String) :=
  [("Integer", "int"), ("String", "std::string"), ("Numeric", "double"), ("Boolean", "bool")]

/-- The names that the schemas of one compilation can use. -/
structure Catalog where
  origins : List Origin := []
  /-- Each exported name once, with the place of the origin it belongs to. -/
  index : List (String × Nat) := []
  /-- The fundamental types that some origin declares. -/
  primitives : List (String × String) := []
deriving Repr, DecidableEq, Inhabited

namespace Catalog

/-! ## Adding a schema -/

/-- The name of the schema at a place; empty if there is none. -/
def schemaAt (c : Catalog) (place : Nat) : String :=
  (c.origins[place]?.map (·.schema)).getD ""

/-- Enters a fundamental data type that a schema declares. -/
def addPrimitive (c : Catalog) (schema name : String) : Report Catalog :=
  match fundamentalTypes.lookup name with
  | some primitive => .done { c with primitives := (name, primitive) :: c.primitives }
  | none => (Report.say (.unmappedDataType schema name)).andThen fun _ => .done c

/-- Enters a name that the schema at `place` exports. -/
def addExport (c : Catalog) (strict : Bool) (place : Nat) (schema name : String) :
    Report Catalog :=
  match c.index.lookup name with
  | none => .done { c with index := c.index ++ [(name, place)] }
  | some earlier =>
    if earlier = place then .done c
    else if earlier = 0 then
      (Report.say (.importShadowed name schema)).andThen fun _ => .done c
    else if strict then .fail (.ambiguousReference name (c.schemaAt earlier) schema)
    else (Report.say (.repeatedExport name (c.schemaAt earlier) schema)).andThen fun _ => .done c

/-- Enters one object of the schema at `place`. -/
def addObject (c : Catalog) (strict : Bool) (place : Nat) (schema : String) (o : SchemaObject) :
    Report Catalog :=
  if o.type = .dataType then c.addPrimitive schema o.name
  else if o.type.isExported then c.addExport strict place schema o.name
  else .done c

/-- Enters objects of the schema at `place`, in order. -/
def addObjects (strict : Bool) (place : Nat) (schema : String) :
    List SchemaObject → Catalog → Report Catalog
  | [], c => .done c
  | o :: os, c =>
    (c.addObject strict place schema o).andThen (addObjects strict place schema os)

/-- Adds a schema as the last origin. -/
def add (c : Catalog) (strict : Bool) (s : Schema) : Report Catalog :=
  (addObjects strict c.origins.length s.name s.objects c).andThen fun c =>
    .done { c with origins := c.origins ++ [.ofSchema s] }

/-! ## Asking a catalog -/

/-- The place of the origin a name belongs to. -/
def placeOf? (c : Catalog) (name : String) : Option Nat :=
  c.index.lookup name

/-- The schema a name belongs to. -/
def originOf? (c : Catalog) (name : String) : Option String :=
  (c.placeOf? name).map c.schemaAt

/-- Whether the local schema exports the name. -/
def isLocal (c : Catalog) (name : String) : Bool :=
  c.placeOf? name = some 0

/-- The C++ primitive of a fundamental type that some origin declares. -/
def primitive? (c : Catalog) (name : String) : Option String :=
  c.primitives.lookup name

/-- The first object of a name in the origin that the name belongs to. -/
def object? (c : Catalog) (name : String) : Option SchemaObject := do
  let place ← c.placeOf? name
  let origin ← c.origins[place]?
  origin.objects.find? (·.name = name)

/-- Every exported name in increasing order, with the schema it belongs to. -/
def entries (c : Catalog) : List (String × String) :=
  (c.index.mergeSort fun a b => !(b.1 < a.1)).map fun (name, place) => (name, c.schemaAt place)

end Catalog

end SchemaGen
