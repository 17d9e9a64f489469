import DeviceLink.Settings.Basic
import DeviceLink.Settings.Environment
import DeviceLink.Settings.Toml
/-!
# Loading settings

A document, overridden by the environment: `load_from`, which reads what `figment` has merged.
-/
namespace DeviceLink

mutual

/-- The second tree laid over the first: tables are joined, all else is replaced. -/
def Source.overlay : Source → Source → Source
  | .object members, .object others =>
    .object (Source.overlayMembers members others ++
      others.filter fun m => !(members.any fun o => o.1 == m.1))
  | _, other => other

def Source.overlayMembers : List (String × Source) → List (String × Source) →
    List (String × Source)
  | [], _ => []
  | (k, s) :: rest, others =>
    (k, match others.lookup k with
      | some other => Source.overlay s other
      | none => s) :: Source.overlayMembers rest others

end

/-- The settings that the environment binds, later ones laid over earlier ones. -/
def Environment.source (bindings : List (String × String)) : Source :=
  bindings.foldl (fun tree v =>
    match Environment.path? v.1 with
    | some path => tree.overlay (Environment.nest path (Environment.value v.2))
    | none => tree) (.object [])

/-- Settings from a document, an absent one counting as empty, and from the environment. -/
def Settings.load (document : Option String) (bindings : List (String × String)) :
    Except LinkError Settings :=
  match Toml.parse? (document.getD "") with
  | none => .error .settings
  | some tree =>
    match Settings.read (tree.overlay (Environment.source bindings)) with
    | some s => .ok s
    | none => .error .settings

end DeviceLink
