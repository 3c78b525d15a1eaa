import InstructionCatalog.Text.Case
import Mathlib

/-!
# Lower-casing twice

No image of the lower-case mapping is mapped further, so `Text.lower` is
idempotent.  The table is examined run against run: either the images of the
one and the members of the other lie apart, or their parities differ.
-/

namespace InstructionCatalog.Text

/-! ## The table -/

/-- All members of the run have the same parity. -/
def CaseRange.isUniform (r : CaseRange) : Bool :=
  Nat.beq r.step 2 || Nat.beq r.first r.last

/-- No image of `r` is a member of `s`. -/
def CaseRange.avoids (r s : CaseRange) : Bool :=
  Nat.blt (r.target + (r.last - r.first)) s.first || Nat.blt s.last r.target ||
    (r.isUniform && s.isUniform && Nat.beq ((r.target + s.first) % 2) 1)

/-- The one character with two images, as a run of its own. -/
def dottedRange : CaseRange := ⟨0x130, 0x130, 1, 0x69⟩

theorem lowerRanges_avoid :
    (lowerRanges.all fun r => (dottedRange :: lowerRanges).all r.avoids) = true := by
  decide +kernel

structure CaseRange.Holds (r : CaseRange) (n : Nat) : Prop where
  first_le : r.first ≤ n
  le_last : n ≤ r.last
  aligned : (n - r.first) % r.step = 0

theorem CaseRange.not_holds_image {r s : CaseRange} {n : Nat} (havoids : r.avoids s = true)
    (hn : r.Holds n) : ¬ s.Holds (r.target + (n - r.first)) := by
  intro himage
  have hfirst := hn.first_le
  have hlast := hn.le_last
  have hsource := hn.aligned
  have hlower := himage.first_le
  have hupper := himage.le_last
  have htarget := himage.aligned
  simp only [avoids, isUniform, Bool.or_eq_true, Bool.and_eq_true, Nat.beq_eq,
    Nat.blt_eq] at havoids
  rcases havoids with (hbelow | habove) | ⟨⟨hr, hs⟩, hparity⟩
  · omega
  · omega
  · have heven : (n - r.first) % 2 = 0 := by
      rcases hr with hstep | hsingle
      · rwa [hstep] at hsource
      · omega
    have heven' : (r.target + (n - r.first) - s.first) % 2 = 0 := by
      rcases hs with hstep | hsingle
      · rwa [hstep] at htarget
      · omega
    omega

theorem mapRanges_eq_some {n m : Nat} {ranges : List CaseRange}
    (h : mapRanges n ranges = some m) :
    ∃ r ∈ ranges, r.Holds n ∧ m = r.target + (n - r.first) := by
  induction ranges with
  | nil => simp [mapRanges] at h
  | cons r rest ih =>
      rw [mapRanges] at h
      split at h
      · contradiction
      · rename_i hfirst
        split at h
        · rename_i hlast
          exact ⟨r, by simp, ⟨by omega, hlast.1, hlast.2⟩, by simpa using h.symm⟩
        · obtain ⟨s, hs, hholds⟩ := ih h
          exact ⟨s, List.mem_cons_of_mem r hs, hholds⟩

theorem mapRanges_image {n m : Nat} (h : mapRanges n lowerRanges = some m) :
    m ≠ 0x130 ∧ mapRanges m lowerRanges = none := by
  obtain ⟨r, hr, hn, rfl⟩ := mapRanges_eq_some h
  have havoids : ∀ s ∈ dottedRange :: lowerRanges, r.avoids s = true := by
    have := List.all_eq_true.mp lowerRanges_avoid r hr
    exact List.all_eq_true.mp this
  constructor
  · intro hdotted
    refine CaseRange.not_holds_image (havoids dottedRange (by simp)) hn ?_
    rw [hdotted]
    exact ⟨le_rfl, le_rfl, rfl⟩
  · cases himage : mapRanges (r.target + (n - r.first)) lowerRanges with
    | none => rfl
    | some k =>
        obtain ⟨s, hs, hholds, -⟩ := mapRanges_eq_some himage
        exact absurd hholds (CaseRange.not_holds_image (havoids s (by simp [hs])) hn)

/-! ## Characters -/

theorem lowerChar_ofNat {n : Nat} (hn : n ≠ 0x130) (hmap : mapRanges n lowerRanges = none) :
    lowerChar (Char.ofNat n) = [Char.ofNat n] := by
  by_cases hvalid : n.isValidChar
  · have hcode : (Char.ofNat n).toNat = n := by
      rw [Char.toNat_ofNat, if_pos hvalid]
    simp [lowerChar, hcode, hn, hmap]
  · have hcode : (Char.ofNat n).toNat = 0 := by
      rw [Char.toNat_ofNat, if_neg hvalid]
    have hzero : mapRanges 0 lowerRanges = none := by decide
    simp [lowerChar, hcode, hzero]

theorem lowerChar_of_mem {c d : Char} (h : c ∈ lowerChar d) : lowerChar c = [c] := by
  unfold lowerChar at h
  split at h
  · rcases List.mem_pair.mp h with rfl | rfl <;> decide
  · rename_i hdotted
    split at h
    · rename_i n hn
      obtain rfl := List.mem_singleton.mp h
      obtain ⟨hne, hmap⟩ := mapRanges_image hn
      exact lowerChar_ofNat hne hmap
    · rename_i hnone
      obtain rfl := List.mem_singleton.mp h
      simp [lowerChar, hdotted, hnone]

theorem lowerChar_ne_nil (c : Char) : lowerChar c ≠ [] := by
  unfold lowerChar
  repeat' split
  all_goals simp

/-! ## Texts -/

theorem lowerChar_of_mem_lowerFrom {before cs : List Char} {c : Char}
    (h : c ∈ lowerFrom before cs) : lowerChar c = [c] := by
  induction cs generalizing before with
  | nil => simp [lowerFrom] at h
  | cons d cs ih =>
      rw [lowerFrom, List.mem_append] at h
      rcases h with hhead | htail
      · split at hhead
        · split at hhead <;> obtain rfl := List.mem_singleton.mp hhead <;> decide
        · exact lowerChar_of_mem hhead
      · exact ih htail

theorem lowerFrom_eq_self {before cs : List Char} (h : ∀ c ∈ cs, lowerChar c = [c]) :
    lowerFrom before cs = cs := by
  induction cs generalizing before with
  | nil => rfl
  | cons c cs ih =>
      have hc : lowerChar c = [c] := h c (by simp)
      have hsigma : c ≠ 'Σ' := by
        rintro rfl
        exact absurd hc (by decide)
      rw [lowerFrom, if_neg hsigma, hc, ih fun d hd => h d (by simp [hd])]
      rfl

@[simp] theorem lower_lower (s : String) : lower (lower s) = lower s := by
  unfold lower
  rw [String.toList_ofList, lowerFrom_eq_self]
  intro c hc
  exact lowerChar_of_mem_lowerFrom hc

@[simp] theorem lower_eq_empty_iff (s : String) : lower s = "" ↔ s = "" := by
  have hnil : lowerFrom [] s.toList = [] ↔ s.toList = [] := by
    cases s.toList with
    | nil => simp [lowerFrom]
    | cons c cs =>
        simp only [lowerFrom, List.append_eq_nil_iff, reduceCtorEq, iff_false, not_and]
        intro hhead
        split at hhead
        · simp at hhead
        · exact absurd hhead (lowerChar_ne_nil c)
  rw [lower, String.ofList_eq_empty_iff, hnil, String.toList_eq_nil_iff]

end InstructionCatalog.Text
