import WorkspacePool.Proofs.Pool.Serving

/-!
Which slots a scan for idle ones lists, and in which order. The scan is a stable sort of the rows
that it keeps, so equally idle slots stay in the order of the rows, which is that of their numbers.
-/

namespace WorkspacePool

/-- The order of an idle scan: the longest idle first, equally idle slots by number. -/
def Slot.Precedes (left right : Slot) : Prop :=
  left.lastActivity < right.lastActivity ∨
    left.lastActivity = right.lastActivity ∧ left.id.number < right.id.number

namespace Pool

variable {pool : Pool} {limit : Span} {now : Millis} {row : Slot}

theorem mem_idleRunning : row ∈ pool.idleRunning limit now ↔
    row ∈ pool.slots ∧ row.isBusy = true ∧ row.status = .running ∧
      limit.word < row.idleFor now := by
  simp [idleRunning, and_assoc]

theorem word_lt_idleFor : limit.word < row.idleFor now ↔
    limit.millis % 18446744073709551616 < now.toNat - row.lastActivity.toNat := by
  rw [UInt64.lt_iff_toNat_lt, Slot.toNat_idleFor, Span.word, UInt64.toNat_ofNat']

theorem idleRunning_perm (pool : Pool) (limit : Span) (now : Millis) :
    (pool.idleRunning limit now).Perm (pool.slots.filter fun slot =>
      slot.isBusy && slot.status == .running && limit.word < slot.idleFor now) :=
  List.mergeSort_perm _ _

theorem Sound.idleRunning_ids (sound : pool.Sound) (limit : Span) (now : Millis) :
    ((pool.idleRunning limit now).map (·.id)).Nodup :=
  ((idleRunning_perm pool limit now).map _).nodup_iff.mpr
    (sound.ids_nodup.sublist (List.filter_sublist.map _))

theorem Sound.idleRunning_distinct (sound : pool.Sound) (limit : Span) (now : Millis) :
    ((pool.idleRunning limit now).map (·.projectId)).Nodup := by
  refine ((idleRunning_perm pool limit now).map _).nodup_iff.mpr (List.pairwise_map.mpr ?_)
  refine List.Pairwise.imp_of_mem ?_ (sound.exclusive.sublist List.filter_sublist)
  intro left right leftMember rightMember apart
  simp only [List.mem_filter, Bool.and_eq_true] at leftMember rightMember
  exact apart leftMember.2.1.1 rightMember.2.1.1

/-! ### The order of a scan -/

/-- A stable sort leaves elements that are tied in their order. -/
theorem filter_mergeSort {α : Type} {le : α → α → Bool} {keep : α → Bool} {rows : List α}
    (trans : ∀ first second third, le first second → le second third → le first third)
    (total : ∀ first second, le first second || le second first)
    (tied : ∀ first second, keep first → keep second → le first second) :
    (rows.mergeSort le).filter keep = rows.filter keep := by
  have kept : (rows.filter keep).Pairwise fun first second => le first second = true := by
    refine List.pairwise_of_forall_mem_list fun first firstMember second secondMember => ?_
    exact tied first second (List.mem_filter.mp firstMember).2 (List.mem_filter.mp secondMember).2
  have inside := (List.sublist_mergeSort trans total kept List.filter_sublist).filter keep
  rw [List.filter_filter] at inside
  simp only [Bool.and_self] at inside
  exact (inside.eq_of_length ((List.mergeSort_perm rows le).filter keep).length_eq.symm).symm

theorem noLater_trans (first second third : Slot)
    (earlier : decide (first.lastActivity ≤ second.lastActivity) = true)
    (later : decide (second.lastActivity ≤ third.lastActivity) = true) :
    decide (first.lastActivity ≤ third.lastActivity) = true := by
  simp only [decide_eq_true_eq] at earlier later ⊢
  exact UInt64.le_trans earlier later

theorem noLater_total (first second : Slot) :
    (decide (first.lastActivity ≤ second.lastActivity) ||
      decide (second.lastActivity ≤ first.lastActivity)) = true := by
  simpa using UInt64.le_total first.lastActivity second.lastActivity

theorem idleRunning_sorted (pool : Pool) (limit : Span) (now : Millis) :
    (pool.idleRunning limit now).Pairwise fun left right =>
      left.lastActivity ≤ right.lastActivity :=
  (List.pairwise_mergeSort noLater_trans noLater_total _).imp of_decide_eq_true

/-- Rows last active at one moment are listed in the order of the pool. -/
theorem idleRunning_tied (pool : Pool) (limit : Span) (now moment : Millis) :
    ((pool.idleRunning limit now).filter (·.lastActivity == moment)).Sublist pool.slots := by
  unfold idleRunning
  rw [filter_mergeSort noLater_trans noLater_total]
  · exact List.filter_sublist.trans List.filter_sublist
  · intro first second firstThen secondThen
    simp only [beq_iff_eq] at firstThen secondThen
    simp [firstThen, secondThen]

theorem Sound.idleRunning_ordered (sound : pool.Sound) (limit : Span) (now : Millis) :
    (pool.idleRunning limit now).Pairwise Slot.Precedes := by
  refine List.pairwise_iff_forall_sublist.mpr ?_
  intro left right listed
  have ordered := List.pairwise_iff_forall_sublist.mp (idleRunning_sorted pool limit now) listed
  rcases UInt64.lt_or_eq_of_le ordered with earlier | same
  · exact .inl earlier
  · have tied := (listed.filter (·.lastActivity == right.lastActivity)).trans
      (idleRunning_tied pool limit now right.lastActivity)
    have rows : [left, right].Sublist pool.slots := by simpa [same] using tied
    exact .inr ⟨same, List.pairwise_iff_forall_sublist.mp sound.ascending rows⟩

/-- A scan with a limit whose low 64 bits are no less lists no other slots. -/
theorem idleRunning_subset {longer shorter : Span} (ordered : shorter.word ≤ longer.word)
    (listed : row ∈ pool.idleRunning longer now) : row ∈ pool.idleRunning shorter now := by
  obtain ⟨member, busy, running, idle⟩ := mem_idleRunning.mp listed
  exact mem_idleRunning.mpr ⟨member, busy, running, UInt64.lt_of_le_of_lt ordered idle⟩

/-- Whatever was done with a pool, the scan lists exactly the busy, running slots that have been
idle for more milliseconds than the low 64 bits of the limit, each once and as it stands, the
longest idle first and equally idle ones by number. The pool stays as it is. -/
theorem idle_scan_lists (slotCount : UInt32) (capacity : Nat) (start : Millis)
    (history : List Use) (limit : Span) (now : Millis) :
    let pool := (create slotCount capacity start).run history
    let listed := pool.idleRunning limit now
    (∀ row, row ∈ listed ↔ row ∈ pool.slots ∧ row.isBusy = true ∧ row.status = .running ∧
        limit.millis % 18446744073709551616 < now.toNat - row.lastActivity.toNat) ∧
      (listed.map (·.id)).Nodup ∧ listed.Pairwise Slot.Precedes ∧
      pool.perform now (.idleRunning limit) = (listed, pool) := by
  intro pool listed
  have sound : pool.Sound := (create_sound slotCount capacity start).run history
  refine ⟨?_, sound.idleRunning_ids limit now, sound.idleRunning_ordered limit now, rfl⟩
  intro row
  rw [mem_idleRunning, word_lt_idleFor]

end Pool

end WorkspacePool
