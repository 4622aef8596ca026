import AutomationTool.Publishing.ArchivePublishing

/-!
# The parts of an upload

A prepared attempt fixes how its material is uploaded (`Planned`): as one file, or in parts
of one size with a shorter last one. The rounds of the upload loop follow from that plan.

* `plannedParts_numbers`: they are the parts `1 .. part_count`, in order.
* `plannedParts_tiles`: they lie one behind the other from the first byte to the last.
-/
namespace AutomationTool.Publishing

/-! ## Consecutive ranges -/

/-- The parts lie one behind the other from `lo` to `hi`, none of them empty. -/
def Tiles : Nat → List PlannedPart → Nat → Prop
  | lo, [], hi => lo = hi
  | lo, p :: ps, hi => p.offset = lo ∧ 1 ≤ p.size ∧ Tiles (lo + p.size) ps hi

/-- Every byte is in exactly one part. -/
theorem Tiles.once {lo hi : Nat} {ps : List PlannedPart} (h : Tiles lo ps hi) {b : Nat}
    (hlo : lo ≤ b) (hhi : b < hi) :
    (ps.filter fun p => p.offset ≤ b ∧ b < p.offset + p.size).length = 1 := by
  have houtside : ∀ {lo hi : Nat} {ps : List PlannedPart}, Tiles lo ps hi → b < lo →
      (ps.filter fun p => p.offset ≤ b ∧ b < p.offset + p.size) = [] := by
    intro lo hi ps h hb
    induction ps generalizing lo with
    | nil => rfl
    | cons p ps ih =>
      obtain ⟨ho, hs, hrest⟩ := h
      rw [List.filter_cons_of_neg, ih hrest (by omega)]
      simp only [decide_eq_true_eq]
      omega
  induction ps generalizing lo with
  | nil =>
    have : lo = hi := h
    omega
  | cons p ps ih =>
    obtain ⟨ho, hs, hrest⟩ := h
    by_cases hb : b < lo + p.size
    · rw [List.filter_cons_of_pos, houtside hrest hb]
      · rfl
      · simp only [decide_eq_true_eq]
        omega
    · rw [List.filter_cons_of_neg, ih hrest (by omega)]
      simp only [decide_eq_true_eq]
      omega

/-! ## The plan of an attempt -/

/-- What `prepare` stores about the upload. -/
structure Planned (contract : BilibiliOpenApiContract) (r : BilibiliPublishAttemptRecord) :
    Prop where
  uploadType : r.uploadType =
    if r.material.sizeBytes ≤ contract.smallFileMaxBytes then .small else .chunked
  partSize : r.uploadType = .chunked → r.partSizeBytes = contract.partSizeBytes
  partCount : r.uploadType = .chunked →
    r.partCount = (planUploadParts contract r.material.sizeBytes).length

/-- Two records of one upload. -/
structure SamePlan (r r' : BilibiliPublishAttemptRecord) : Prop where
  material : r'.material = r.material
  uploadType : r'.uploadType = r.uploadType
  partSize : r'.partSizeBytes = r.partSizeBytes
  partCount : r'.partCount = r.partCount

variable {contract : BilibiliOpenApiContract} {r r' : BilibiliPublishAttemptRecord}

theorem SamePlan.refl (r : BilibiliPublishAttemptRecord) : SamePlan r r := ⟨rfl, rfl, rfl, rfl⟩

theorem SamePlan.trans {r'' : BilibiliPublishAttemptRecord} (h : SamePlan r r')
    (h' : SamePlan r' r'') : SamePlan r r'' :=
  ⟨h'.material.trans h.material, h'.uploadType.trans h.uploadType, h'.partSize.trans h.partSize,
    h'.partCount.trans h.partCount⟩

theorem Planned.same (h : Planned contract r) (hs : SamePlan r r') : Planned contract r' := by
  refine ⟨?_, fun ht => ?_, fun ht => ?_⟩
  · rw [hs.uploadType, hs.material]
    exact h.uploadType
  · rw [hs.partSize]
    exact h.partSize (hs.uploadType ▸ ht)
  · rw [hs.partCount, hs.material]
    exact h.partCount (hs.uploadType ▸ ht)

theorem partsFrom_same (hs : SamePlan r r') (left index offset : Nat) :
    partsFrom r' left index offset = partsFrom r left index offset := by
  induction left generalizing index offset with
  | zero => rfl
  | succ left ih =>
    unfold partsFrom
    rw [hs.partCount, hs.material, hs.partSize]
    dsimp only
    rw [ih]

theorem plannedParts_same (hs : SamePlan r r') : plannedParts r' = plannedParts r := by
  unfold plannedParts
  rw [hs.partCount, partsFrom_same hs]

theorem partsFrom_numbers (left index offset : Nat) :
    (partsFrom r left index offset).map (·.partNumber) = List.range' (index + 1) left := by
  induction left generalizing index offset with
  | zero => rfl
  | succ left ih =>
    unfold partsFrom
    rw [List.map_cons, ih, List.range'_succ]

theorem plannedParts_numbers :
    (plannedParts r).map (·.partNumber) = List.range' 1 r.partCount := partsFrom_numbers _ _ _

/-- A number belongs to one planned part. -/
theorem plannedParts_unique {p q : PlannedPart} (hp : p ∈ plannedParts r) (hq : q ∈ plannedParts r)
    (h : p.partNumber = q.partNumber) : p = q := by
  have hnodup : ((plannedParts r).map (·.partNumber)).Nodup := by
    rw [plannedParts_numbers]
    exact List.nodup_range'
  exact List.inj_on_of_nodup_map hnodup hp hq h

/-- The last part is the one that reaches the end. -/
theorem plan_length_bounds (contract : BilibiliOpenApiContract) {n : Nat} (hn : 1 ≤ n) :
    1 ≤ (planUploadParts contract n).length ∧
      ((planUploadParts contract n).length - 1) * contract.partSizeBytes < n ∧
      n ≤ (planUploadParts contract n).length * contract.partSizeBytes := by
  have hpos := contract.partSize_pos
  have hdiv := Nat.div_add_mod' n contract.partSizeBytes
  have hmod := Nat.mod_lt n hpos
  refine ⟨plan_length_pos contract hn, ?_⟩
  unfold planUploadParts
  by_cases h0 : n % contract.partSizeBytes = 0
  · rw [if_pos h0, List.append_nil, List.length_replicate, Nat.sub_mul]
    omega
  · rw [if_neg h0, List.length_append, List.length_replicate, List.length_singleton,
      Nat.add_sub_cancel, Nat.add_mul]
    omega

theorem partsFrom_tiles (left index : Nat) (hcount : index + left = r.partCount)
    (hleft : 1 ≤ left) (hstart : index * r.partSizeBytes < r.material.sizeBytes)
    (hlast : (r.partCount - 1) * r.partSizeBytes < r.material.sizeBytes)
    (hpart : 1 ≤ r.partSizeBytes) :
    Tiles (index * r.partSizeBytes) (partsFrom r left index (index * r.partSizeBytes))
      r.material.sizeBytes := by
  induction left generalizing index with
  | zero => omega
  | succ left ih =>
    unfold partsFrom
    by_cases hend : index + 1 = r.partCount
    · obtain rfl : left = 0 := by omega
      rw [if_pos hend]
      refine ⟨rfl, ?_, ?_⟩
      · show 1 ≤ _ - _
        omega
      · show index * r.partSizeBytes + (_ - _) = _
        omega
    · rw [if_neg hend]
      have hnext : index * r.partSizeBytes + r.partSizeBytes = (index + 1) * r.partSizeBytes := by
        rw [Nat.add_mul, Nat.one_mul]
      have hle : (index + 1) * r.partSizeBytes ≤ (r.partCount - 1) * r.partSizeBytes :=
        Nat.mul_le_mul_right _ (by omega)
      refine ⟨rfl, hpart, ?_⟩
      show Tiles (index * r.partSizeBytes + r.partSizeBytes) _ _
      rw [hnext]
      exact ih (index + 1) (by omega) (by omega) (by omega)

theorem plannedParts_tiles (h : Planned contract r) (ht : r.uploadType = .chunked) :
    Tiles 0 (plannedParts r) r.material.sizeBytes := by
  obtain ⟨hpos, hlast, -⟩ := plan_length_bounds contract r.material.size_pos
  rw [← h.partCount ht] at hpos
  rw [← h.partCount ht, ← h.partSize ht] at hlast
  have hstart : 0 * r.partSizeBytes < r.material.sizeBytes := by
    have := r.material.size_pos
    omega
  have hpart : 1 ≤ r.partSizeBytes := by
    rw [h.partSize ht]
    exact contract.partSize_pos
  have := partsFrom_tiles r.partCount 0 (Nat.zero_add _) hpos hstart hlast hpart
  rwa [Nat.zero_mul] at this

end AutomationTool.Publishing
