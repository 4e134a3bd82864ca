import EffectModel.Module.Basic
import EffectModel.Text.LetterCase

/-! Names that a module gives. The interface `IEmailService` gives the property `EmailService`, the
capability interface `IHasEmailService` and the parameter `emailService`. An awaited method may lose
its ending in its effect's name; where that makes two effects share a name, the renamed ones go back
to the names of their methods. -/
namespace EffectModel

namespace Naming

/-- Lowers a leading run of capitals. The last capital of a run of several stays when a small letter
follows it, since it begins the next word. -/
def lowerLeading (atStart : Bool) : List Char → List Char
  | [] => []
  | c :: rest =>
      if Text.isUpper c then
        if !atStart && rest.head?.any Text.isLower then c :: rest
        else Text.toLower c ++ lowerLeading false rest
      else c :: rest

def camelCase (name : String) : String := String.ofList (lowerLeading true name.toList)

/-- The name of an interface without the letter that marks interfaces; a name that is this letter
alone keeps it, and so does the name of anything else. -/
def withoutInterfacePrefix (name : String) (isInterface : Bool) (mark : Char) : String :=
  match name.toList with
  | first :: rest =>
      if isInterface && first == mark && !rest.isEmpty then String.ofList rest else name
  | [] => name

/-- The name without a suffix, unless nothing else would be left. -/
def withoutSuffix (name suffix : String) : String :=
  match suffix.toList.isSuffixOf? name.toList with
  | some stem => if stem.isEmpty then name else String.ofList stem
  | none => name

def capabilityInterface (mark property : String) : String := mark ++ property

end Naming

namespace Effect

def asyncEnding : String := "Async"

def initialName (rules : NamingRules) (method : String) (isAsync : Bool) : String :=
  if isAsync && rules.stripAsyncSuffix then Naming.withoutSuffix method asyncEnding else method

/-- Whether an effect is renamed and shares its name with another one. -/
def collides (effects : List Effect) (effect : Effect) : Bool :=
  effect.isRenamed && 1 < effects.countP (fun other => other.name == effect.name)

def restored (effect : Effect) : Effect := { effect with name := effect.source }

/-- One pass: every effect that collides takes back the name of its method. -/
def restorePass (effects : List Effect) : List Effect :=
  effects.map (fun effect => if collides effects effect then effect.restored else effect)

def restoreWithin : Nat → List Effect → List Effect
  | 0, effects => effects
  | passes + 1, effects =>
      if effects.any (collides effects) then restoreWithin passes (restorePass effects) else effects

/-- The effects with all collisions undone. A name that was restored can collide in its turn, but
every pass restores at least one, so there are no more passes than renamed effects. -/
def restoreCollisions (effects : List Effect) : List Effect :=
  restoreWithin (effects.countP isRenamed) effects

end Effect

end EffectModel
