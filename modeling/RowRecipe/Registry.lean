import RowRecipe.Directive.Catalog
import RowRecipe.Text.Quoted

/-!
# Registries

A registry knows directives by name. Entries are registered one after another, a later one replacing
an earlier one of its name, and registries are put together with the first that knows a name having
priority.
-/
namespace RowRecipe

inductive Registry where
  /-- Entries in the order of their registration. -/
  | entries (registered : List Entry)
  /-- Registries in the order of their priority. -/
  | layers (registries : List Registry)

/-- The entry registered last with a name. -/
def registeredLast? (name : String) : List Entry → Option Entry
  | [] => none
  | entry :: entries =>
    match registeredLast? name entries with
    | some later => some later
    | none => if entry.name = name then some entry else none

theorem registeredLast?_cons (name : String) (entry : Entry) (entries : List Entry) :
    registeredLast? name (entry :: entries) =
      (registeredLast? name entries).or (if entry.name = name then some entry else none) := by
  rw [registeredLast?]
  cases registeredLast? name entries <;> rfl

/-- The entries by name, the last registered with a name winning. -/
def byName (registered : List Entry) : SortedMap Entry :=
  SortedMap.ofList (registered.map fun entry => (entry.name, entry))

namespace Registry

mutual

def get? (name : String) : Registry → Option Entry
  | .entries registered => registeredLast? name registered
  | .layers registries => firstOf name registries

/-- The entry with a name in the first registry that has one. -/
def firstOf (name : String) : List Registry → Option Entry
  | [] => none
  | registry :: registries =>
    match registry.get? name with
    | some entry => some entry
    | none => firstOf name registries

end

theorem firstOf_cons (name : String) (registry : Registry) (registries : List Registry) :
    firstOf name (registry :: registries) = (registry.get? name).or (firstOf name registries) := by
  rw [firstOf]
  cases registry.get? name <;> rfl

mutual

/-- All entries that can be got, by name. -/
def index : Registry → SortedMap Entry
  | .entries registered => byName registered
  | .layers registries => indexOf registries

def indexOf : List Registry → SortedMap Entry
  | [] => SortedMap.empty
  | registry :: registries => (indexOf registries).union registry.index

end

/-- All entries that can be got, in the order of their names. -/
def list (registry : Registry) : List Entry :=
  registry.index.entries.map Prod.snd

def names (registry : Registry) : List String :=
  registry.list.map Entry.name

/-- The registry of the library. -/
def system : Registry :=
  .entries Catalog.entries

/-- The registry that is used where no other is given. -/
def standard : Registry :=
  .layers [system]

end Registry

/-- What an entry shows of itself. -/
def Entry.inspection (entry : Entry) : String :=
  "DirectiveInfo \x7b name: " ++ Text.shown entry.name ++ ", usage: "
    ++ Text.shown entry.usage.display ++ ", description: " ++ Text.shown entry.description
    ++ " \x7d"

/-- What some registries show of themselves together. -/
def Registry.inspection (registries : List Registry) : String :=
  "CompositeDirectiveRegistry \x7b registries: " ++ integerText registries.length ++ ", names: ["
    ++ Text.join ", " ((Registry.layers registries).names.map Text.shown) ++ "] \x7d"

end RowRecipe
