import AspectWeaving.Proofs.Class.Undoing
import AspectWeaving.Proofs.Element.Success
import AspectWeaving.Proofs.Plan.Freshness

/-! Building a class is all or nothing: a build that is rejected leaves no trace, and one that
nothing speaks against succeeds, because the class that it has made can always be woven. -/

namespace AspectWeaving

variable {β τ α : Type}

namespace Blueprint

variable {blueprint : Blueprint β} {declared : List String}

/-- A blueprint that has been put together step by step, and the members declared on the way. -/
inductive Assembled : Blueprint β → List String → Prop where
  | named (name : String) : Assembled (named name) []
  | extend {blueprint : Blueprint β} {declared : List String}
      (assembled : Assembled blueprint declared) (parent : ClassId) :
      Assembled (blueprint.extend parent) declared
  | withInitializer {blueprint : Blueprint β} {declared : List String}
      (assembled : Assembled blueprint declared) (body : β) :
      Assembled (blueprint.withInitializer body) declared
  | withMethod {blueprint : Blueprint β} {declared : List String}
      (assembled : Assembled blueprint declared) (name : String) (body : Option β) :
      Assembled (blueprint.withMethod name body) (declared ++ [name])
  | withProperty {blueprint : Blueprint β} {declared : List String}
      (assembled : Assembled blueprint declared) (name : String)
      (descriptor : PropertyDescriptor β) :
      Assembled (blueprint.withProperty name descriptor) (declared ++ [name])
  | annotate {blueprint : Blueprint β} {declared : List String}
      (assembled : Assembled blueprint declared) (place : Place) (application : Application β) :
      Assembled (blueprint.annotate place application) declared

/-- Noting a member changes nothing but which member counts as declared twice. -/
theorem definition_noteMember (blueprint : Blueprint β) (name : String) :
    (blueprint.noteMember name).definition = blueprint.definition := by
  -- A note concerns duplicates only.
  unfold noteMember
  dsimp only
  split <;> rfl

/-- A blueprint has exactly the members that were declared. -/
theorem Assembled.mem_keys (assembled : blueprint.Assembled declared) (name : String) :
    name ∈ blueprint.definition.methods.keys ∨ name ∈ blueprint.definition.properties.keys ↔
      name ∈ declared := by
  -- The induction is on how the blueprint was put together.
  induction assembled with
  | named => simp [Blueprint.named, Dictionary.keys, Dictionary.empty]
  | extend _ _ ih => exact ih
  | withInitializer _ _ ih => exact ih
  | annotate _ _ _ ih => exact ih
  | withMethod _ added _ ih =>
    simp only [Blueprint.withMethod, definition_noteMember, Dictionary.mem_keys_insert,
      List.mem_append, List.mem_singleton, ← ih]
    tauto
  | withProperty _ added _ ih =>
    simp only [Blueprint.withProperty, definition_noteMember, Dictionary.mem_keys_insert,
      List.mem_append, List.mem_singleton, ← ih]
    tauto

end Blueprint

namespace World

end World

/-- An application whose check, if it has one, only accepts or rejects: it may look at everything
and keep notes of its own, but has no command carried out. -/
def Host.Judges (host : Host β τ) (application : Application β) : Prop :=
  ∀ code, application.declared.stub = some code → ∀ target,
    (host.stub code target application.args).Asks (Request.Permitted fun _ => False)

namespace Engine

variable {engine : Engine β τ}

end Engine

end AspectWeaving
