/-!
Finite maps from names, as lists of entries in the order of the names. A list built by `insert` has
each name once.
-/

set_option autoImplicit false
set_option relaxedAutoImplicit false

namespace PluginRecovery

/-- The entries of a finite map, in ascending order of their names. -/
abbrev Dictionary (α : Type) := List (String × α)

namespace Dictionary

variable {α : Type}

/-- The map with `name` sent to `value`; an entry of that name is replaced. -/
def insert (name : String) (value : α) : Dictionary α → Dictionary α
  | [] => [(name, value)]
  | (other, old) :: rest =>
    if name < other then (name, value) :: (other, old) :: rest
    else if name = other then (name, value) :: rest
    else (other, old) :: insert name value rest

def get? (map : Dictionary α) (name : String) : Option α :=
  map.lookup name

/-- The names, in ascending order. -/
def names (map : Dictionary α) : List String :=
  map.map Prod.fst

/-- The map of the given entries; of two entries of one name the later one counts. -/
def ofEntries (entries : List (String × α)) : Dictionary α :=
  entries.foldl (fun map (name, value) => insert name value map) []

/-- The entries of both maps, those of the second where a name is in both. -/
def overlay (base upper : Dictionary α) : Dictionary α :=
  upper.foldr (fun (name, value) map => insert name value map) base

end Dictionary

end PluginRecovery
