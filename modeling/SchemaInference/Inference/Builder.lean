/-
This file builds the field of a key from a sample value, with the composite types that it needs.
-/

import SchemaInference.Inference.Merge
import SchemaInference.Inference.Unions
import SchemaInference.Schema.Basic
import SchemaInference.Schema.Options

namespace SchemaInference

/-- The cache holds the composite types that are built. A pending name is reserved for a type whose
fields are still being built. -/
structure TypeCache where
  types : Dict ObjectType
  pending : List String

namespace TypeCache

def empty : TypeCache :=
  ⟨.empty, []⟩

def contains (cache : TypeCache) (name : String) : Bool :=
  cache.types.contains name || cache.pending.contains name

def reserve (cache : TypeCache) (name : String) : TypeCache :=
  { cache with pending := name :: cache.pending }

/-- A finished type is no longer pending. -/
def insert (cache : TypeCache) (object : ObjectType) : TypeCache where
  types := cache.types.insert object.name object
  pending := cache.pending.filter (· != object.name)

end TypeCache

/-- A build takes a key, a sample of its values and the cache, and gives the field of the key. -/
abbrev Build := String → Json → TypeCache → Field × TypeCache

/-- A builder works with the same options, names and unions for a whole document. -/
structure Builder where
  options : Options
  namer : Namer
  unions : Unions

namespace Builder

/-- This function adds the field of each sample to a type, in order. -/
def addFields (build : Build) (samples : List (String × Json)) (object : ObjectType)
    (cache : TypeCache) : ObjectType × TypeCache :=
  samples.foldl (fun (object, cache) (key, sample) =>
    let (field, cache) := build key sample cache
    (object.addField field, cache)) (object, cache)

/-- A member without a value of its own is sampled by what the unions know of it. -/
def memberSample (builder : Builder) (key : String) (members : List (String × Json))
    (member : String) : Json :=
  match members.lookup member with
  | some value => value
  | none => if builder.unions.isObject key member then .object [] else .null

/-- The members of a type are those of its sample and those of its bucket. -/
def memberNames (builder : Builder) (key : String) (members : List (String × Json)) :
    List String :=
  let known := match builder.unions.bucket? key with
    | some bucket => bucket.keys
    | none => []
  (Entries.ofList ((members.map Prod.fst ++ known).map fun name => (name, ()))).map Prod.fst

def memberSamples (builder : Builder) (key : String) (members : List (String × Json)) :
    List (String × Json) :=
  (builder.memberNames key members).map fun name =>
    (name, builder.memberSample key members name)

/-- A type is built once for its name. Its name is reserved while its fields are built, so a nested
value of the same key refers back to it. -/
def objectField (builder : Builder) (build : Build) (key : String)
    (members : List (String × Json)) (cache : TypeCache) : Field × TypeCache :=
  let name := builder.namer key
  if cache.contains name then (.object key name, cache)
  else
    let (object, cache) :=
      addFields build (builder.memberSamples key members) (.empty name) (cache.reserve name)
    (.object key name, cache.insert (object.orFallback builder.options.fallbackField))

/-- The items of an array are sampled by their merge when all are objects, and by the first item
otherwise. -/
def itemSample (first : Json) (rest : List Json) : Json :=
  match (first :: rest).mapM Json.members? with
  | some objects => .object (Json.merge objects)
  | none => first

def listField (build : Build) (key : String) (items : List Json) (cache : TypeCache) :
    Field × TypeCache :=
  match items with
  | [] => (.list key (.scalar .string), cache)
  | first :: rest =>
      let (field, cache) := build key (itemSample first rest) cache
      (.list key field.type, cache)

/-- This function builds with a number of nested levels left. With none left every value is a
string. -/
def fieldWithin (builder : Builder) : Nat → Build
  | 0, key, _, cache => (.scalar key .string, cache)
  | levels + 1, key, .object members, cache =>
      builder.objectField (builder.fieldWithin levels) key members cache
  | levels + 1, key, .array items, cache => listField (builder.fieldWithin levels) key items cache
  | _ + 1, key, sample, cache => (.scalar key (.of sample), cache)

/-- The levels that are left at a depth. The greatest depth still has one. -/
def levelsAt (builder : Builder) (depth : Nat) : Nat :=
  builder.options.maxDepth + 1 - depth

def fieldAt (builder : Builder) (depth : Nat) : Build :=
  builder.fieldWithin (builder.levelsAt depth)

/-- An object at a depth has its members one level deeper. -/
def objectFieldAt (builder : Builder) (depth : Nat) (key : String)
    (members : List (String × Json)) (cache : TypeCache) : Field × TypeCache :=
  builder.objectField (builder.fieldAt (depth + 1)) key members cache

def listFieldAt (builder : Builder) (depth : Nat) (key : String) (items : List Json)
    (cache : TypeCache) : Field × TypeCache :=
  listField (builder.fieldAt (depth + 1)) key items cache

end Builder

end SchemaInference
