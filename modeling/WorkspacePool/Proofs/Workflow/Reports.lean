import Mathlib.Data.Set.Insert
import WorkspacePool.Proofs.Pool.Presence
import WorkspacePool.Proofs.Workflow.Orders

/-!
What was reported last on each project, beside where the project is. Between operations every
project was told last what fits: who holds a slot was told that it runs, and who waits that it is
queued or paused. Within an operation some projects are away from this rule, the ones that it deals
with.
-/

namespace WorkspacePool.Workflow

/-- The report that an exchange publishes. -/
def Exchange.report? : Exchange → Option Report
  | ⟨.publish report, _⟩ => some report
  | _ => none

namespace Scene

def reports (scene : Scene) : List Report :=
  scene.exchanges.filterMap (·.report?)

/-- The status that was reported last on a project, whether or not it could be published. -/
def told (scene : Scene) (projectId : String) : Option WorkspaceStatus :=
  (last? (·.projectId == projectId) scene.reports).map (·.status)

end Scene

section Told

variable {scene : Scene}

theorem reports_afterCall (exchange : Exchange) :
    (scene.afterCall exchange).reports = scene.reports ++ exchange.report?.toList := by
  cases report : exchange.report? <;> simp [Scene.reports, Scene.afterCall, report]

theorem told_afterCall (exchange : Exchange) (projectId : String) :
    (scene.afterCall exchange).told projectId =
      ((exchange.report?.filter (·.projectId == projectId)).map (·.status)).or
        (scene.told projectId) := by
  rw [Scene.told, reports_afterCall, last?_append, Scene.told]
  cases exchange.report?.filter (·.projectId == projectId) <;> rfl

theorem told_publish (report : Report) (answer : (Call.publish report).Answer) :
    (scene.afterCall ⟨.publish report, answer⟩).told =
      Function.update scene.told report.projectId (some report.status) := by
  funext projectId
  rw [told_afterCall, Exchange.report?, Option.filter_some]
  by_cases own : report.projectId = projectId
  · subst own
    simp
  · simp [own, Function.update_of_ne (Ne.symm own)]

theorem told_of_no_report {exchange : Exchange} (none : exchange.report? = none) :
    (scene.afterCall exchange).told = scene.told := by
  funext projectId
  simp [told_afterCall, none]

end Told

/-! ### What fits -/

variable {pool after : Pool} {told : String → Option WorkspaceStatus} {away wider : Set String}
  {projectId : String} {status : WorkspaceStatus} {now : Millis} {op : PoolOp} {reply : op.Reply}

/-- What a project was told last fits where it is. -/
structure Fits (pool : Pool) (projectId : String) (told : Option WorkspaceStatus) : Prop where
  held : pool.Hosts projectId → told = some .running
  waits : pool.Waits projectId → told = some .queued ∨ told = some .paused
  absent : pool.Absent projectId →
    told ≠ some .running ∧ told ≠ some .queued ∧ told ≠ some .pausing

/-- Every project that is not away was told last what fits. -/
structure Informed (pool : Pool) (told : String → Option WorkspaceStatus) (away : Set String) :
    Prop where
  sound : pool.Sound
  fits : ∀ projectId, projectId ∉ away → Fits pool projectId (told projectId)

/-- Besides, who is away neither holds a slot nor waits. -/
structure Rests (pool : Pool) (told : String → Option WorkspaceStatus) (away : Set String) :
    Prop extends Informed pool told away where
  absent : ∀ projectId, projectId ∈ away → pool.Absent projectId

theorem Fits.apart {told : Option WorkspaceStatus} (fits : Fits pool projectId told)
    (held : pool.Hosts projectId) : ¬ pool.Waits projectId := by
  intro waits
  rcases fits.waits waits with queued | paused
  · simp [fits.held held] at queued
  · simp [fits.held held] at paused

theorem Fits.congr {told : Option WorkspaceStatus} (fits : Fits pool projectId told)
    (hosts : after.Hosts projectId ↔ pool.Hosts projectId)
    (waits : after.Waits projectId ↔ pool.Waits projectId) : Fits after projectId told :=
  ⟨fun held => fits.held (hosts.mp held), fun waiting => fits.waits (waits.mp waiting),
    fun absent => fits.absent ⟨mt hosts.mpr absent.unheld, mt waits.mpr absent.unqueued⟩⟩

theorem fits_running (held : pool.Hosts projectId) (unqueued : ¬ pool.Waits projectId) :
    Fits pool projectId (some .running) :=
  ⟨fun _ => rfl, fun waits => absurd waits unqueued, fun absent => absurd held absent.unheld⟩

theorem fits_queued (unheld : ¬ pool.Hosts projectId) (waits : pool.Waits projectId) :
    Fits pool projectId (some .queued) :=
  ⟨fun held => absurd held unheld, fun _ => .inl rfl, fun absent => absurd waits absent.unqueued⟩

theorem fits_paused (unheld : ¬ pool.Hosts projectId) : Fits pool projectId (some .paused) :=
  ⟨fun held => absurd held unheld, fun _ => .inr rfl, fun _ => by simp⟩

/-- Who is gone may have been told anything but that it runs, is queued or is being paused. -/
theorem fits_absent (absent : pool.Absent projectId)
    (gone : status ≠ .running ∧ status ≠ .queued ∧ status ≠ .pausing) :
    Fits pool projectId (some status) :=
  ⟨fun held => absurd held absent.unheld, fun waits => absurd waits absent.unqueued,
    fun _ => by simpa using gone⟩

/-- What a fitting report lets a listener conclude. -/
theorem Fits.cases {told : Option WorkspaceStatus} (fits : Fits pool projectId told) :
    (pool.Hosts projectId ∧ ¬ pool.Waits projectId ∧ told = some .running) ∨
    (¬ pool.Hosts projectId ∧ pool.Waits projectId ∧
      (told = some .queued ∨ told = some .paused)) ∨
    (¬ pool.Hosts projectId ∧ ¬ pool.Waits projectId ∧
      told ≠ some .running ∧ told ≠ some .queued ∧ told ≠ some .pausing) := by
  by_cases held : pool.Hosts projectId
  · exact .inl ⟨held, fits.apart held, fits.held held⟩
  · by_cases waits : pool.Waits projectId
    · exact .inr (.inl ⟨held, waits, fits.waits waits⟩)
    · exact .inr (.inr ⟨held, waits, fits.absent ⟨held, waits⟩⟩)

theorem Informed.widen (informed : Informed pool told away) (more : away ⊆ wider) :
    Informed pool told wider :=
  ⟨informed.sound, fun projectId outside =>
    informed.fits projectId fun inside => outside (more inside)⟩

/-- Reports on a project that is away do not matter. -/
theorem Informed.tell (informed : Informed pool told away) (inside : projectId ∈ away) :
    Informed pool (Function.update told projectId (some status)) away := by
  refine ⟨informed.sound, ?_⟩
  intro other outside
  have different : other ≠ projectId := fun same => outside (same ▸ inside)
  rw [Function.update_of_ne different]
  exact informed.fits other outside

/-- A project comes back once it was told what fits. -/
theorem Informed.rejoin (informed : Informed pool told wider)
    (fits : Fits pool projectId (told projectId)) (rest : wider ⊆ insert projectId away) :
    Informed pool told away := by
  refine ⟨informed.sound, ?_⟩
  intro other outside
  by_cases own : other = projectId
  · rw [own]
    exact fits
  · refine informed.fits other fun inside => ?_
    rcases rest inside with same | within
    · exact own same
    · exact outside within

theorem Informed.report (informed : Informed pool told (insert projectId away))
    (fits : Fits pool projectId (some status)) :
    Informed pool (Function.update told projectId (some status)) away :=
  (informed.tell (Set.mem_insert _ _)).rejoin (by simpa using fits) (Set.Subset.refl _)

theorem Informed.rests (informed : Informed pool told ∅) : Rests pool told ∅ :=
  ⟨informed, by simp⟩

/-- Nobody both holds a slot and waits. -/
theorem Rests.apart (rests : Rests pool told away) (projectId : String)
    (held : pool.Hosts projectId) : ¬ pool.Waits projectId := by
  by_cases inside : projectId ∈ away
  · exact (rests.absent projectId inside).unqueued
  · exact (rests.fits projectId inside).apart held

/-! ### Uses of the pool -/

theorem Informed.use (informed : Informed pool told away)
    (effect : pool.Effect now op reply after) (more : away ⊆ wider)
    (same : ∀ projectId, projectId ∉ wider →
      (after.Hosts projectId ↔ pool.Hosts projectId) ∧
        (after.Waits projectId ↔ pool.Waits projectId)) : Informed after told wider := by
  refine ⟨effect.sound informed.sound, ?_⟩
  intro projectId outside
  obtain ⟨hosts, waits⟩ := same projectId outside
  exact (informed.fits projectId fun inside => outside (more inside)).congr hosts waits

/-- A use by which nobody comes or goes. -/
structure Still (pool after : Pool) : Prop where
  hosts : ∀ projectId, after.Hosts projectId ↔ pool.Hosts projectId
  waits : ∀ projectId, after.Waits projectId ↔ pool.Waits projectId

theorem Informed.still (informed : Informed pool told away)
    (effect : pool.Effect now op reply after) (still : Still pool after) :
    Informed after told away :=
  informed.use effect (Set.Subset.refl _) fun projectId _ =>
    ⟨still.hosts projectId, still.waits projectId⟩

theorem Rests.still (rests : Rests pool told away) (effect : pool.Effect now op reply after)
    (still : Still pool after) : Rests after told away := by
  refine ⟨rests.toInformed.still effect still, ?_⟩
  intro projectId inside
  have absent := rests.absent projectId inside
  exact ⟨mt (still.hosts projectId).mp absent.unheld, mt (still.waits projectId).mp absent.unqueued⟩

theorem still_of_quiet (effect : pool.Effect now op reply after) (sound : pool.Sound)
    (noClaimNext : op ≠ .claimNext) (quiet : op.IsQuiet reply) : Still pool after := by
  constructor
  · intro projectId
    simpa [PoolOp.booking?_of_isQuiet quiet] using effect.hosts_iff sound projectId
  · intro projectId
    simpa [Pool.handed_of_isQuiet quiet, PoolOp.accepted?_of_isQuiet quiet] using
      effect.waits_iff sound (fun serves => absurd serves noClaimNext) projectId

/-- The project has got a slot, which all but it can be told nothing of. -/
theorem Informed.claim (informed : Informed pool told away) {slot : SlotId} {sessionId : String}
    (effect : pool.Effect now (.claim slot projectId sessionId) (.ok ()) after) :
    Informed after told (insert projectId away) ∧ after.Hosts projectId := by
  have hosts := fun other => effect.hosts_iff informed.sound other
  have waits := fun other => effect.waits_iff informed.sound (by simp) other
  simp only [PoolOp.booking?, PoolOp.handed, PoolOp.accepted?, List.not_mem_nil, false_implies,
    implies_true, and_true, reduceCtorEq, or_false] at hosts waits
  refine ⟨informed.use effect (Set.subset_insert _ _) ?_, (hosts projectId).mpr (.inl rfl)⟩
  intro other outside
  have different : other ≠ projectId := fun same => outside (same ▸ Set.mem_insert _ _)
  exact ⟨by simp [hosts, different], waits other⟩

/-- The project waits no longer. -/
theorem Informed.withdraw (informed : Informed pool told away) (inside : projectId ∈ away) :
    Informed (pool.withdraw projectId).2 told away ∧
      (∀ other, (pool.withdraw projectId).2.Hosts other ↔ pool.Hosts other) ∧
      ¬ (pool.withdraw projectId).2.Waits projectId := by
  have effect : pool.Effect 0 (.withdraw projectId) _ _ := Pool.withdraw_effect
  have hosts := fun other => effect.hosts_iff informed.sound other
  simp only [PoolOp.booking?] at hosts
  refine ⟨informed.use effect (Set.Subset.refl _) ?_, hosts, ?_⟩
  · intro other outside
    have different : other ≠ projectId := fun same => outside (same ▸ inside)
    exact ⟨hosts other, by simp [Pool.withdraw_waits informed.sound, different]⟩
  · simp [Pool.withdraw_waits informed.sound]

/-- The project holds no slot any more. -/
theorem Informed.free (informed : Informed pool told away) (inside : projectId ∈ away)
    (hosted : pool.Hosts projectId) (now : Millis) :
    Informed (pool.free projectId now).2 told away ∧
      ¬ (pool.free projectId now).2.Hosts projectId ∧
      (∀ other, other ≠ projectId →
        ((pool.free projectId now).2.Hosts other ↔ pool.Hosts other)) ∧
      ∀ other, (pool.free projectId now).2.Waits other ↔ pool.Waits other := by
  obtain ⟨slot, freed⟩ := Pool.free_hosted informed.sound hosted now
  have effect : pool.Effect now (.free projectId) _ _ := Pool.free_effect
  rw [freed] at effect
  have hosts := fun other => effect.hosts_iff informed.sound other
  have waits := fun other => effect.waits_iff informed.sound (by simp) other
  simp only [PoolOp.booking?, PoolOp.handed, PoolOp.accepted?, List.not_mem_nil, false_implies,
    implies_true, and_true, reduceCtorEq, or_false] at hosts waits
  refine ⟨informed.use effect (Set.Subset.refl _) ?_, by simp [hosts], ?_, waits⟩
  · intro other outside
    have different : other ≠ projectId := fun same => outside (same ▸ inside)
    exact ⟨by simp [hosts, different], waits other⟩
  · intro other different
    simp [hosts, different]

theorem Rests.serveNobody (rests : Rests pool told away)
    (effect : pool.Effect now .claimNext none after) : Rests after told away := by
  refine rests.still effect ⟨fun other => effect.hosts_iff rests.sound other, ?_⟩
  intro other
  simpa [PoolOp.handed, PoolOp.accepted?] using
    effect.waits_iff rests.sound (fun _ => rests.apart) other

/-- A request that waited has got a slot. Nobody who is away is concerned. -/
theorem Rests.serve (rests : Rests pool told away) {slot : SlotId} {request : Request}
    (effect : pool.Effect now .claimNext (some (slot, request)) after) :
    Informed after told (insert request.projectId away) ∧
      (∀ other, other ∈ away → after.Absent other) ∧
      after.Hosts request.projectId ∧ ¬ after.Waits request.projectId := by
  have hosts := fun other => effect.hosts_iff rests.sound other
  have waits := fun other => effect.waits_iff rests.sound (fun _ => rests.apart) other
  simp only [PoolOp.booking?, PoolOp.handed, PoolOp.accepted?, Option.map_some, Option.toList_some,
    List.mem_singleton, forall_eq, reduceCtorEq, or_false] at hosts waits
  have waited := effect.served_waited
  refine ⟨rests.toInformed.use effect (Set.subset_insert _ _) ?_, ?_, by simp [hosts],
    by simp [waits]⟩
  · intro other outside
    have different : other ≠ request.projectId := fun same => outside (same ▸ Set.mem_insert _ _)
    exact ⟨by simp [hosts, different], by simp [waits, different]⟩
  · intro other inside
    have absent := rests.absent other inside
    have different : other ≠ request.projectId := fun same => absent.unqueued (same ▸ waited)
    exact ⟨by simp [hosts, different, absent.unheld], by simp [waits, absent.unqueued]⟩

end WorkspacePool.Workflow
