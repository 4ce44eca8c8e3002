/-!
Ordered maps: lists of named entries with one entry a name. A new name goes to the end, and a name
that is already there keeps its place.
-/

namespace FacetedSearch

abbrev Entries (α : Type) := List (String × α)

namespace Entries

variable {α β : Type}

def find? : Entries α → String → Option α
  | [], _ => none
  | (name, a) :: rest, key => if name = key then some a else find? rest key

def contains (entries : Entries α) (key : String) : Bool := (entries.find? key).isSome

/-- Sets the value of a name. -/
def put : Entries α → String → α → Entries α
  | [], key, a => [(key, a)]
  | (name, old) :: rest, key, a =>
    if name = key then (name, a) :: rest else (name, old) :: put rest key a

def putAll (entries : Entries α) (news : Entries α) : Entries α :=
  news.foldl (fun entries entry => entries.put entry.1 entry.2) entries

/-- The map with the given entries, of which a later one overrides an earlier one of its name. -/
def ofList (entries : List (String × α)) : Entries α := putAll [] entries

def erase (entries : Entries α) (key : String) : Entries α := entries.filter (·.1 != key)

def names (entries : Entries α) : List String := entries.map (·.1)

def values (entries : Entries α) : List α := entries.map (·.2)

def mapValues (f : α → β) (entries : Entries α) : Entries β :=
  entries.map fun entry => (entry.1, f entry.2)

end Entries

end FacetedSearch
