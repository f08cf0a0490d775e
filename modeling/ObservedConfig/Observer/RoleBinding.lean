import ObservedConfig.Observer

/-! The observer of restrictions on role bindings. Two admission plugins only make sense where the
built-in server authenticates users, so they are disabled elsewhere. The list of disabled plugins
is shared, and what other sources put into it stays. -/
namespace ObservedConfig.RoleBinding

def name : String := "ObserveRoleBindingRestrictions"

def disabledPlugins : Path := [argumentsKey, "disable-admission-plugins"]

def plugins : List String := [
  "authorization.openshift.io/RestrictSubjectBindings",
  "authorization.openshift.io/ValidateRoleBindingRestriction"]

def disabledMessage : String := "RoleBindingRestriction admission plugins disabled"
def enabledMessage : String := "RoleBindingRestriction admission plugins re-enabled"

/-- Whether the plugins are to be disabled. Without an authentication resource they are not. -/
def shouldDisable : Option Authentication → Bool
  | none => false
  | some auth => !auth.spec.kind.isIntegrated

def desired (disable : Bool) (current : List String) : List String :=
  if disable then unionSorted current plugins else retract current plugins

def held (list : List String) : List Bool := plugins.map list.contains

def decide (ctx : Context) (existing : Tree) : Except Failure Decision := do
  let disable := shouldDisable (← failing (ctx.lookup.authentication Authentication.resourceName))
  let current := (← failing (orError (existing.getList disabledPlugins))).getD []
  let observed := desired disable current
  let fragment ← failing (orError (Tree.setList [] disabledPlugins observed))
  return {
    plans := []
    messages :=
      if held current = held observed then []
      else [if disable then disabledMessage else enabledMessage]
    fragment := Tree.pruned fragment }

def observer {σ : Type} [Replica.Syncer σ] : Observer σ := .deciding name [disabledPlugins] decide

end ObservedConfig.RoleBinding
