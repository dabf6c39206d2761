import Mathlib.Logic.Function.Basic
import WorkspacePool.Proofs.Workflow.Run
import WorkspacePool.Provision.Directive

/-!
What a provisioner was told. The calls of a scene come to a provisioner as directives of its family,
and the last ones on a slot and on a project tell what the provisioner has set up.
-/

namespace WorkspacePool.Workflow

/-- A directive with what came of it. -/
structure Order where
  directive : Directive
  succeeded : Bool
deriving DecidableEq, Repr

namespace Order

/-- The project and session that an order has set up in its slot. -/
def tenant? : Order → Option (String × String)
  | ⟨.assign _ assignment, true⟩ => some (assignment.projectId, assignment.sessionId)
  | _ => none

/-- Whether an order has set up its project. -/
def serves : Order → Bool
  | ⟨.provision _ _, true⟩ => true
  | _ => false

end Order

end WorkspacePool.Workflow

namespace WorkspacePool.Directive

/-- The slot that a directive is about. -/
def slot? : Directive → Option SlotId
  | .assign slot _ | .release slot => some slot
  | _ => none

/-- The project that a directive names. -/
def projectId? : Directive → Option String
  | .assign _ assignment => some assignment.projectId
  | .provision projectId _ | .deprovision projectId => some projectId
  | _ => none

end WorkspacePool.Directive

namespace WorkspacePool.Workflow

/-- The order that a provisioner of a family got by an exchange. -/
def Exchange.order? (family : ProvisionFamily) : Exchange → Option Order
  | ⟨.assign slot assignment, answer⟩ => some ⟨family.assign slot assignment, answer.isOk⟩
  | ⟨.release slot projectId, answer⟩ => some ⟨family.release slot projectId, answer.isOk⟩
  | ⟨.publish _, _⟩ | ⟨.lookUpToken _, _⟩ => none

/-- The last element that passes a test. -/
def last? {α : Type} (test : α → Bool) (log : List α) : Option α :=
  (log.filter test).getLast?

theorem last?_append {α : Type} (test : α → Bool) (log : List α) (new : Option α) :
    last? test (log ++ new.toList) = (new.filter test).or (last? test log) := by
  cases new with
  | none => simp [last?]
  | some new =>
      by_cases hit : test new = true <;>
        simp [last?, List.filter_append, Option.filter_some, hit]

theorem last?_test {α : Type} {test : α → Bool} {log : List α} {found : α}
    (last : last? test log = some found) : test found = true :=
  (List.mem_filter.mp (List.mem_of_getLast? last)).2

namespace Scene

def orders (family : ProvisionFamily) (scene : Scene) : List Order :=
  scene.exchanges.filterMap (·.order? family)

/-- The last order about a slot. -/
def lastOn? (family : ProvisionFamily) (slot : SlotId) (scene : Scene) : Option Order :=
  last? (·.directive.slot? == some slot) (scene.orders family)

/-- The last order that names a project. -/
def lastNaming? (family : ProvisionFamily) (projectId : String) (scene : Scene) : Option Order :=
  last? (·.directive.projectId? == some projectId) (scene.orders family)

/-- Who was set up last in a slot, by the orders of the slot pool's family: nobody after a release
or a failure. -/
def tenancy (scene : Scene) (slot : SlotId) : Option (String × String) :=
  (scene.lastOn? .slotPool slot).bind Order.tenant?

/-- Whether a project was set up last, by the orders of the other family. -/
def serves (scene : Scene) (projectId : String) : Bool :=
  (scene.lastNaming? .perProject projectId).any Order.serves

end Scene

/-- A pool beside what its provisioner has set up in slots and for projects. -/
structure View where
  pool : Pool
  tenancy : SlotId → Option (String × String)
  serves : String → Bool

def Scene.view (scene : Scene) : View := ⟨scene.pool, scene.tenancy, scene.serves⟩

/-! ### What the last orders tell -/

section Last

variable {scene : Scene} {slot : SlotId} {projectId sessionId : String}

theorem tenancy_eq_some_iff : scene.tenancy slot = some (projectId, sessionId) ↔
    ∃ assignment, scene.lastOn? .slotPool slot = some ⟨.assign slot assignment, true⟩ ∧
      assignment.projectId = projectId ∧ assignment.sessionId = sessionId := by
  constructor
  · intro set
    obtain ⟨order, last, tenant⟩ := Option.bind_eq_some_iff.mp set
    unfold Order.tenant? at tenant
    split at tenant
    · next other assignment =>
      have same : other = slot := by simpa [Directive.slot?] using last?_test last
      simp only [Option.some.injEq, Prod.mk.injEq] at tenant
      exact ⟨assignment, same ▸ last, tenant⟩
    · contradiction
  · rintro ⟨assignment, last, rfl, rfl⟩
    rw [Scene.tenancy, last]
    rfl

/-- A slot without a tenant was never the subject of an order, or was last released, or could not be
set up. -/
theorem lastOn?_of_vacant (vacant : scene.tenancy slot = none) :
    scene.lastOn? .slotPool slot = none ∨
    (∃ succeeded, scene.lastOn? .slotPool slot = some ⟨.release slot, succeeded⟩) ∨
    ∃ assignment, scene.lastOn? .slotPool slot = some ⟨.assign slot assignment, false⟩ := by
  cases last : scene.lastOn? .slotPool slot with
  | none => exact .inl rfl
  | some order =>
      obtain ⟨directive, succeeded⟩ := order
      have about := last?_test last
      cases directive with
      | release other =>
          have same : other = slot := by simpa [Directive.slot?] using about
          exact .inr (.inl ⟨succeeded, by rw [same]⟩)
      | assign other assignment =>
          have same : other = slot := by simpa [Directive.slot?] using about
          cases succeeded with
          | false => exact .inr (.inr ⟨assignment, by rw [same]⟩)
          | true => simp [Scene.tenancy, last, Order.tenant?] at vacant
      | ensureSlots | provision | deprovision => simp [Directive.slot?] at about

theorem serves_iff : scene.serves projectId = true ↔
    ∃ gitRepoUrl, scene.lastNaming? .perProject projectId =
      some ⟨.provision projectId gitRepoUrl, true⟩ := by
  constructor
  · intro served
    obtain ⟨order, last, done⟩ := (Option.any_eq_true _ _).mp served
    unfold Order.serves at done
    split at done
    · next other gitRepoUrl =>
      have same : other = projectId := by simpa [Directive.projectId?] using last?_test last
      exact ⟨gitRepoUrl, same ▸ last⟩
    · contradiction
  · rintro ⟨gitRepoUrl, last⟩
    rw [Scene.serves, last]
    rfl

end Last

/-! ### How the view changes from step to step -/

section Steps

variable {scene : Scene} {slot : SlotId} {projectId : String} {assignment : Assignment}

@[simp] theorem view_pool : scene.view.pool = scene.pool := rfl

@[simp] theorem view_afterUse {now : Millis} {op : PoolOp} :
    (scene.afterUse now op).view = { scene.view with pool := (scene.pool.perform now op).2 } := rfl

theorem orders_afterCall (family : ProvisionFamily) (exchange : Exchange) :
    (scene.afterCall exchange).orders family =
      scene.orders family ++ (exchange.order? family).toList := by
  cases order : exchange.order? family <;> simp [Scene.orders, Scene.afterCall, order]

theorem lastOn?_afterCall (family : ProvisionFamily) (exchange : Exchange) (slot : SlotId) :
    (scene.afterCall exchange).lastOn? family slot =
      ((exchange.order? family).filter (·.directive.slot? == some slot)).or
        (scene.lastOn? family slot) := by
  rw [Scene.lastOn?, orders_afterCall, last?_append, Scene.lastOn?]

theorem lastNaming?_afterCall (family : ProvisionFamily) (exchange : Exchange)
    (projectId : String) :
    (scene.afterCall exchange).lastNaming? family projectId =
      ((exchange.order? family).filter (·.directive.projectId? == some projectId)).or
        (scene.lastNaming? family projectId) := by
  rw [Scene.lastNaming?, orders_afterCall, last?_append, Scene.lastNaming?]

theorem tenancy_afterCall {exchange : Exchange} {order : Order}
    (ordered : exchange.order? .slotPool = some order)
    (about : order.directive.slot? = some slot) :
    (scene.afterCall exchange).tenancy = Function.update scene.tenancy slot order.tenant? := by
  funext other
  rw [Scene.tenancy, lastOn?_afterCall, ordered, Option.filter_some, about]
  by_cases same : slot = other
  · subst same
    simp
  · simp [same, Function.update_of_ne (Ne.symm same), Scene.tenancy]

theorem serves_afterCall {exchange : Exchange} {order : Order}
    (ordered : exchange.order? .perProject = some order)
    (about : order.directive.projectId? = some projectId) :
    (scene.afterCall exchange).serves = Function.update scene.serves projectId order.serves := by
  funext other
  rw [Scene.serves, lastNaming?_afterCall, ordered, Option.filter_some, about]
  by_cases same : projectId = other
  · subst same
    simp
  · simp [same, Function.update_of_ne (Ne.symm same), Scene.serves]

theorem view_of_no_order {exchange : Exchange} (none : ∀ family, exchange.order? family = none) :
    (scene.afterCall exchange).view = scene.view := by
  simp only [Scene.view, View.mk.injEq]
  refine ⟨rfl, ?_, ?_⟩
  · funext slot
    simp [Scene.tenancy, lastOn?_afterCall, none]
  · funext projectId
    simp [Scene.serves, lastNaming?_afterCall, none]

@[simp] theorem view_publish {report : Report} {answer : (Call.publish report).Answer} :
    (scene.afterCall ⟨.publish report, answer⟩).view = scene.view :=
  view_of_no_order fun _ => rfl

@[simp] theorem view_lookUpToken {userId : String} {answer : (Call.lookUpToken userId).Answer} :
    (scene.afterCall ⟨.lookUpToken userId, answer⟩).view = scene.view :=
  view_of_no_order fun _ => rfl

/-- An assignment sets up its slot and its project if it succeeds, and clears them if it fails. -/
@[simp] theorem view_assign {answer : (Call.assign slot assignment).Answer} :
    (scene.afterCall ⟨.assign slot assignment, answer⟩).view =
      { pool := scene.pool
        tenancy := Function.update scene.tenancy slot
          (if answer.isOk then some (assignment.projectId, assignment.sessionId) else none)
        serves := Function.update scene.serves assignment.projectId answer.isOk } := by
  rw [Scene.view, tenancy_afterCall rfl rfl, serves_afterCall rfl rfl]
  cases answer <;> rfl

/-- A release clears its slot and its project, whether it succeeds or fails. -/
@[simp] theorem view_release {answer : (Call.release slot projectId).Answer} :
    (scene.afterCall ⟨.release slot projectId, answer⟩).view =
      { pool := scene.pool
        tenancy := Function.update scene.tenancy slot none
        serves := Function.update scene.serves projectId false } := by
  rw [Scene.view, tenancy_afterCall rfl rfl, serves_afterCall rfl rfl]
  rfl

end Steps

end WorkspacePool.Workflow
