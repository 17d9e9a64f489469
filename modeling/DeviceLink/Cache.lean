import DeviceLink.Assoc
import DeviceLink.Text.Blank
/-!
# Last accepted values

A map from (table, device, tag) to the value last accepted there. No part of a key may be blank.
Main statement: `find?_set`.

| here | in the SDK |
| --- | --- |
| `Cache` | `LastValidValueCache`, without the times of its entries |
| `CacheKey`, `CacheKey.check` | `CacheKey`, which its `new` refuses with a blank part |
| `put`, `get`, `update`, `clear` | the methods of these names |
| `size`, `isEmpty` | `len`, `is_empty` |
-/
namespace DeviceLink

inductive KeyPart
  | table
  | device
  | tag
deriving DecidableEq

def KeyPart.name : KeyPart → String
  | .table => "table"
  | .device => "device"
  | .tag => "tag"

inductive CacheError
  | blankKey (part : KeyPart)
deriving DecidableEq

def CacheError.message : CacheError → String
  | .blankKey part => "cache key component '" ++ part.name ++ "' must not be blank"

structure CacheKey where
  table  : String
  device : String
  tag    : String
deriving DecidableEq

namespace CacheKey

/-- The first blank part, in the order table, device, tag. -/
def blankPart? (k : CacheKey) : Option KeyPart :=
  if Text.isBlank k.table then some .table
  else if Text.isBlank k.device then some .device
  else if Text.isBlank k.tag then some .tag
  else none

/-- A key all of whose parts name something. -/
def check (k : CacheKey) : Except CacheError CacheKey :=
  match k.blankPart? with
  | some part => .error (.blankKey part)
  | none => .ok k

end CacheKey

/-- Entries in the order in which their keys were first stored, each key once. -/
structure Cache where
  entries : List (CacheKey × Float)
deriving DecidableEq

namespace Cache

def empty : Cache := ⟨[]⟩

/-- The value stored under a key. -/
def find? (c : Cache) (k : CacheKey) : Option Float := c.entries.lookup k

def set (c : Cache) (k : CacheKey) (x : Float) : Cache := ⟨Assoc.set k x c.entries⟩

def size (c : Cache) : Nat := c.entries.length

def isEmpty (c : Cache) : Bool := c.entries.isEmpty

def put (c : Cache) (k : CacheKey) (x : Float) : Except CacheError Cache := do
  let k ← k.check
  pure (c.set k x)

def get (c : Cache) (k : CacheKey) : Except CacheError (Option Float) := do
  let k ← k.check
  pure (c.find? k)

/-- Shows the entry to `decide`, which answers with the value to store, or `none` to leave the
entry as it is, and with a result for the caller. -/
def update {α : Type} (c : Cache) (k : CacheKey) (decide : Option Float → Option Float × α) :
    Except CacheError (α × Cache) := do
  let k ← k.check
  let (next, a) := decide (c.find? k)
  match next with
  | some x => pure (a, c.set k x)
  | none => pure (a, c)

def clear (_ : Cache) : Cache := empty

/-! ## Entries -/

theorem find?_set (c : Cache) (k k' : CacheKey) (x : Float) :
    (c.set k x).find? k' = if k' = k then some x else c.find? k' :=
  Assoc.lookup_set k k' x c.entries

/-- To store what is stored there changes nothing. -/
theorem set_of_find? {c : Cache} {k : CacheKey} {x : Float} (h : c.find? k = some x) :
    c.set k x = c :=
  congrArg Cache.mk (Assoc.set_of_lookup h)

theorem find?_empty (k : CacheKey) : empty.find? k = none := rfl

end Cache
end DeviceLink
