import SchemaGen.Schema.Basic
import SchemaGen.Report

/-!
# Loaders

Where referenced schemas come from. A loader turns an identifier into a path and a path into a
schema. It also bounds itself: it names finitely many paths outside of which nothing loads.
That bound is all a traversal of references needs to end, whatever the references are.
-/

set_option autoImplicit false

namespace SchemaGen

/-- A source of schemas. -/
structure Loader where
  /-- The path that an identifier means when the schema at `source` uses it. -/
  resolve : (source identifier : String) → Except Fault String
  /-- The schema at a path. -/
  load : (path : String) → Except Fault Schema
  /-- Paths among which are all that load. -/
  paths : List String
  mem_paths : ∀ {path : String} {schema : Schema}, load path = .ok schema → path ∈ paths

/-- A set of schemas held in memory. -/
structure SchemaSet where
  /-- Schemas by path. -/
  entries : List (String × Schema) := []
  /-- Identifiers with a path of their own; every other identifier is its own path. -/
  aliases : List (String × String) := []
  /-- Paths that refuse to load though they have an entry. -/
  broken : List String := []

namespace SchemaSet

/-- The path of an identifier. -/
def resolve (s : SchemaSet) (identifier : String) : Except Fault String :=
  match s.aliases.lookup identifier with
  | some path => .ok path
  | none =>
    if (s.entries.lookup identifier).isSome then .ok identifier
    else .error (.noSuchSchema identifier)

/-- The schema at a path. -/
def load (s : SchemaSet) (path : String) : Except Fault Schema :=
  if s.broken.contains path then .error (.unloadable path)
  else match s.entries.lookup path with
    | some schema => .ok schema
    | none => .error (.unloadable path)

theorem mem_keys_of_lookup {β : Type} {key : String} {value : β} :
    ∀ {entries : List (String × β)}, entries.lookup key = some value →
      key ∈ entries.map Prod.fst
  | [], h => by simp at h
  | (k, v) :: rest, h => by
    by_cases hk : key = k
    · simp [hk]
    · have hb : (key == k) = false := by simpa using hk
      rw [List.lookup_cons, hb] at h
      exact List.mem_cons_of_mem _ (mem_keys_of_lookup h)

theorem mem_of_load {s : SchemaSet} {path : String} {schema : Schema}
    (h : s.load path = .ok schema) : path ∈ s.entries.map Prod.fst := by
  unfold load at h
  split at h
  · cases h
  · split at h
    next found => exact mem_keys_of_lookup found
    next => cases h

/-- A set of schemas as a loader. -/
def loader (s : SchemaSet) : Loader where
  resolve _ identifier := s.resolve identifier
  load := s.load
  paths := s.entries.map Prod.fst
  mem_paths := mem_of_load

end SchemaSet

end SchemaGen
