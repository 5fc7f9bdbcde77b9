import Mathlib.Logic.Function.Iterate
import Mathlib.Tactic.Common

/-!
# Cyclic checksums

A checksum register of `w` bits moves one place down for each bit of a message,
and takes in the polynomial when a set bit falls out. The register is linear in
exclusive or, and no step forgets anything, so a message changed within half a
register's width of one place leaves another register behind.
-/

namespace QtAppBase.Library.Crc

variable {w n : ℕ} (poly : BitVec w)

/-- One bit: shift, and take in the polynomial for a set bit. -/
def bitStep (register : BitVec w) : BitVec w :=
  if register.getLsbD 0 then (register >>> 1) ^^^ poly else register >>> 1

/-- One unit of `n` bits: add it to the low end, and shift it out. -/
def unitStep (register : BitVec w) (unit : BitVec n) : BitVec w :=
  (bitStep poly)^[n] (register ^^^ unit.setWidth w)

/-- The register behind a message. -/
def checksum (register : BitVec w) (message : List (BitVec n)) : BitVec w :=
  message.foldl (unitStep poly) register

/-! ### The register is linear and forgets nothing -/

/-- One bit is linear in exclusive or. -/
theorem bitStep_xor (a b : BitVec w) :
    bitStep poly (a ^^^ b) = bitStep poly a ^^^ bitStep poly b := by
  have hcancel : ∀ x y p : BitVec w, x ^^^ y = (x ^^^ p) ^^^ (y ^^^ p) := by
    intro x y p
    rw [BitVec.xor_assoc, BitVec.xor_comm y p, ← BitVec.xor_assoc p p, BitVec.xor_self,
      BitVec.zero_xor]
  unfold bitStep
  rw [BitVec.getLsbD_xor, BitVec.ushiftRight_xor_distrib]
  cases ha : a.getLsbD 0 <;> cases hb : b.getLsbD 0 <;> simp
  · ac_rfl
  · ac_rfl
  · exact hcancel _ _ _

/-- Several bits are linear in exclusive or. -/
theorem bitSteps_xor (k : ℕ) (a b : BitVec w) :
    (bitStep poly)^[k] (a ^^^ b) = (bitStep poly)^[k] a ^^^ (bitStep poly)^[k] b := by
  induction k generalizing a b with
  | zero => rfl
  | succ k ih => rw [Function.iterate_succ_apply, bitStep_xor, ih]; rfl

/-- An empty register stays empty. -/
theorem bitSteps_zero (k : ℕ) : (bitStep poly)^[k] 0#w = 0#w := by
  apply Function.iterate_fixed
  simp [bitStep]

/-- While the low bits are clear, the register only moves down. -/
theorem bitSteps_of_clear {k : ℕ} {a : BitVec w} (hclear : ∀ i < k, a.getLsbD i = false) :
    (bitStep poly)^[k] a = a >>> k := by
  induction k generalizing a with
  | zero => simp
  | succ k ih =>
    have hlowest : bitStep poly a = a >>> 1 := by simp [bitStep, hclear 0 (Nat.succ_pos k)]
    have hrest : ∀ i < k, (a >>> 1).getLsbD i = false := by
      intro i hi
      rw [BitVec.getLsbD_ushiftRight]
      exact hclear (1 + i) (by omega)
    rw [Function.iterate_succ_apply, hlowest, ih hrest, ← BitVec.shiftRight_add, Nat.add_comm]

variable {poly}

/-- A polynomial with its highest bit set lets one bit be undone: whether it was
taken in shows in the highest bit of the register. -/
theorem bitStep_injective (hpoly : poly.msb = true) : Function.Injective (bitStep poly) := by
  have hzero : ∀ a : BitVec w, bitStep poly a = 0#w → a = 0#w := by
    intro a ha
    have hw : 0 < w := by
      by_contra hw
      obtain rfl : w = 0 := by omega
      simp [BitVec.msb, BitVec.getMsbD] at hpoly
    cases hlow : a.getLsbD 0 with
    | true =>
      have htop : (bitStep poly a).msb = true := by
        simp [bitStep, hlow, BitVec.msb_xor, hpoly, BitVec.msb_ushiftRight]
      rw [ha] at htop
      simp at htop
    | false =>
      have hshift : a >>> 1 = 0#w := by simpa [bitStep, hlow] using ha
      apply BitVec.eq_of_getLsbD_eq
      intro i hi
      cases i with
      | zero => simpa using hlow
      | succ i =>
        have hbit := congrArg (BitVec.getLsbD · i) hshift
        simpa [Nat.add_comm] using hbit
  intro a b hab
  have hsum : bitStep poly (a ^^^ b) = 0#w := by
    rw [bitStep_xor, hab, BitVec.xor_self]
  exact BitVec.xor_eq_zero_iff.mp (hzero _ hsum)

/-- A unit can be undone. -/
theorem unitStep_injective (hpoly : poly.msb = true) (unit : BitVec n) :
    Function.Injective fun register : BitVec w => unitStep poly register unit := by
  intro a b hab
  have hsum := (bitStep_injective hpoly).iterate n hab
  exact BitVec.xor_left_inj _ |>.mp hsum

/-- A message can be undone. -/
theorem checksum_injective (hpoly : poly.msb = true) (message : List (BitVec n)) :
    Function.Injective fun register : BitVec w => checksum poly register message := by
  induction message with
  | nil => exact Function.injective_id
  | cons unit message ih => exact ih.comp (unitStep_injective hpoly unit)

/-! ### Two units at once -/

/-- Two units side by side, the first one below. -/
def pair (w : ℕ) (a b : BitVec n) : BitVec w := a.setWidth w ^^^ (b.setWidth w <<< n)

/-- Two units that fit the register are told apart by their bits in it. -/
theorem pair_inj (hwidth : n + n ≤ w) {a b a' b' : BitVec n} (h : pair w a b = pair w a' b') :
    a = a' ∧ b = b' := by
  have hbit : ∀ i, (pair w a b).getLsbD i = (pair w a' b').getLsbD i := fun i => by rw [h]
  constructor
  · apply BitVec.eq_of_getLsbD_eq
    intro i hi
    have hiw : i < w := by omega
    simpa [pair, hi, hiw] using hbit i
  · apply BitVec.eq_of_getLsbD_eq
    intro i hi
    have hiw : i + n < w := by omega
    have ha : a.getLsbD (i + n) = false := BitVec.getLsbD_of_ge a _ (Nat.le_add_left _ _)
    have ha' : a'.getLsbD (i + n) = false := BitVec.getLsbD_of_ge a' _ (Nat.le_add_left _ _)
    have hi' : i < w := by omega
    have habove : ¬ i + n < n := by omega
    simpa [pair, hiw, hi', ha, ha', habove] using hbit (i + n)

/-- Two units one after the other are the pair of them shifted out at once. -/
theorem unitStep_unitStep (hwidth : n + n ≤ w) (register : BitVec w) (a b : BitVec n) :
    unitStep poly (unitStep poly register a) b =
      (bitStep poly)^[n + n] (register ^^^ pair w a b) := by
  have hclear : ∀ i < n, (b.setWidth w <<< n).getLsbD i = false := by
    intro i hi
    simp [hi]
  have hback : (b.setWidth w <<< n) >>> n = b.setWidth w := by
    apply BitVec.eq_of_getLsbD_eq
    intro i hi
    rw [BitVec.getLsbD_ushiftRight, BitVec.getLsbD_shiftLeft]
    by_cases hin : i < n
    · have hw : n + i < w := by omega
      simp [hw]
    · have hb : b.getLsbD i = false := BitVec.getLsbD_of_ge b i (by omega)
      simp [hb]
  rw [unitStep, unitStep, Function.iterate_add_apply, pair, ← BitVec.xor_assoc,
    bitSteps_xor poly n (register ^^^ _), bitSteps_of_clear poly hclear, hback]

/-- **Burst errors show.** Two messages of one size that differ, and only in two
neighbouring units that fit the register together, leave different registers. -/
theorem checksum_ne_of_burst (hpoly : poly.msb = true) (hwidth : n + n ≤ w) (register : BitVec w)
    {message message' : List (BitVec n)} (hlength : message'.length = message.length)
    (hne : message' ≠ message) {i : ℕ}
    (hburst : ∀ j, message'[j]? ≠ message[j]? → j = i ∨ j = i + 1) :
    checksum poly register message' ≠ checksum poly register message := by
  induction message generalizing message' register i with
  | nil => exact absurd (List.length_eq_zero_iff.mp hlength) hne
  | cons a rest ih =>
    obtain ⟨a', rest', rfl⟩ := List.exists_cons_of_length_eq_add_one hlength
    have hlength' : rest'.length = rest.length := by simpa using hlength
    have hlater : ∀ j, rest'[j]? ≠ rest[j]? → j + 1 = i ∨ j = i := by
      intro j hj
      have hj' := hburst (j + 1) (by simpa using hj)
      omega
    by_cases ha : a' = a
    · -- the burst lies behind the first unit
      subst ha
      have hne' : rest' ≠ rest := fun h => hne (by rw [h])
      cases i with
      | zero => exact ih _ hlength' hne' (i := 0) fun j hj => by have := hlater j hj; omega
      | succ i => exact ih _ hlength' hne' (i := i) fun j hj => by have := hlater j hj; omega
    · -- the burst starts here: only the unit behind may differ as well
      have hi : i = 0 := by
        have := hburst 0 (by simpa using ha)
        omega
      subst hi
      have hsame : ∀ j, rest'[j + 1]? = rest[j + 1]? := by
        intro j
        by_contra hj
        have := hlater (j + 1) hj
        omega
      cases rest with
      | nil =>
        obtain rfl : rest' = [] := List.length_eq_zero_iff.mp hlength'
        intro heq
        have hsum := (bitStep_injective hpoly).iterate n heq
        have hunit : a'.setWidth w = a.setWidth w := BitVec.xor_right_inj _ |>.mp hsum
        have hpair : pair w a' 0#n = pair w a 0#n := by rw [pair, pair, hunit]
        exact ha (pair_inj hwidth hpair).1
      | cons b back =>
        obtain ⟨b', back', rfl⟩ := List.exists_cons_of_length_eq_add_one hlength'
        obtain rfl : back' = back := List.ext_getElem? fun j => by simpa using hsame j
        intro heq
        have hpairs := checksum_injective hpoly back' heq
        rw [unitStep_unitStep hwidth, unitStep_unitStep hwidth] at hpairs
        have hsum := (bitStep_injective hpoly).iterate (n + n) hpairs
        exact ha (pair_inj hwidth (BitVec.xor_right_inj _ |>.mp hsum)).1

/-- A register is emptied by the two units it holds, and by no others. -/
theorem checksum_pair_eq_zero (hpoly : poly.msb = true) (hwidth : n + n ≤ w) (register : BitVec w)
    (a b : BitVec n) : checksum poly register [a, b] = 0#w ↔ register = pair w a b := by
  have hstep : checksum poly register [a, b] =
      (bitStep poly)^[n + n] (register ^^^ pair w a b) := unitStep_unitStep hwidth register a b
  rw [hstep, ← bitSteps_zero poly (n + n), ((bitStep_injective hpoly).iterate _).eq_iff]
  exact BitVec.xor_eq_zero_iff

end QtAppBase.Library.Crc
