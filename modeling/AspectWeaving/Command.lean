import AspectWeaving.Class.Blueprint
import AspectWeaving.World

/-! Commands: all that a body can ask of the world beside looking at it. -/

namespace AspectWeaving

/-- What can be done with woven classes, instances, plans and the weaver. -/
inductive Command (β : Type) where
  | instantiate (woven : WovenId) (args : List Value)
  | call (receiver : InstanceId) (method : String) (args : List Value)
  | get (receiver : InstanceId) (property : String)
  | set (receiver : InstanceId) (property : String) (value : Value)
  | setField (receiver : InstanceId) (name : String) (value : Value)
  | plan (woven : WovenId) (joinpoint : Joinpoint) (member : String)
  | compile (plan : PlanId) (natural : Option (Symbol β))
  | execute (plan : PlanId) (natural : Option (Symbol β)) (receiver : Option InstanceId)
      (args : List Value)
  | declare (declared : AnnotationDecl β)
  | register (definition : ClassDefinition β)
  | discard (id : ClassId)
  | weave (id : ClassId)
  | build (blueprint : Blueprint β)
  | resolve (element : Element)
  | locate (value : Value)
  /-- Tries an application without leaving a decoration. -/
  | check (element : Element) (application : Application β)
  /-- Decorates an element but leaves the plans as they are. -/
  | annotate (element : Element) (application : Application β)
  | decorate (element : Element) (application : Application β)
  | enable (declaration : AspectDeclaration β)
  | disable (id : String)
  | reset
  /-- Lets go of the weaver. -/
  | release
  /-- Keeps the weaver alive until a matching `unpin`. -/
  | pin
  | unpin

/-- What a command is answered with. -/
@[reducible]
def Command.Answer {β : Type} : Command β → Type
  | .instantiate _ _ => Except ExecutionError InstanceId
  | .call _ _ _ => Except ExecutionError Value
  | .get _ _ => Except ExecutionError Value
  | .set _ _ _ => Except ExecutionError Unit
  | .setField _ _ _ => Unit
  | .plan _ _ _ => Except ExecutionError PlanId
  | .compile _ _ => Except ExecutionError (Symbol β)
  | .execute _ _ _ _ => Except ExecutionError Value
  | .declare _ => Except WeavingError (AnnotationDecl β)
  | .register _ => Except WeavingError ClassId
  | .discard _ => Unit
  | .weave _ => Except WeavingError WovenId
  | .build _ => Except ExecutionError WovenId
  | .resolve _ => Except WeavingError Target
  | .locate _ => Except WeavingError ClassTree
  | .check _ _ => Except ExecutionError (Decoration β)
  | .annotate _ _ => Except ExecutionError (Decoration β)
  | .decorate _ _ => Except ExecutionError (Decoration β)
  | .enable _ => Except RegistrationError RegisteredAspect
  | .disable _ => Bool
  | .reset => Unit
  | .release => Unit
  | .pin => Unit
  | .unpin => Unit

end AspectWeaving
