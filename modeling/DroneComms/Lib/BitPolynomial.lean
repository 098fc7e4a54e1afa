import Mathlib.Data.ZMod.Basic
import Mathlib.RingTheory.AdjoinRoot
import Mathlib.Tactic

/-!
# Bit strings as polynomials

A bit string is read as a polynomial over the field with two elements, the first
bit leading.  Exclusive or is addition, and a register of `n` bits that is
shifted, with the low coefficients of a monic polynomial of degree `n` added for
a bit that is shifted out, divides by that polynomial.

* `mk_shift`: a shift of the register multiplies by `X`, modulo the polynomial;
* `ofBits_eq_modByMonic`: what a register holds is the remainder;
* `not_dvd_burst`: a bit string whose set bits lie within `n` consecutive ones is
  no multiple of the polynomial.
-/

namespace DroneComms.BitPolynomial

open Polynomial

/-- The polynomial of a bit string, the first bit leading. -/
noncomputable def ofBits : List Bool → (ZMod 2)[X]
  | [] => 0
  | b :: bs => C (b.toNat : ZMod 2) * X ^ bs.length + ofBits bs

@[simp] theorem ofBits_nil : ofBits [] = 0 := rfl

@[simp] theorem ofBits_cons (b : Bool) (bs : List Bool) :
    ofBits (b :: bs) = C (b.toNat : ZMod 2) * X ^ bs.length + ofBits bs := rfl

/-- Appended bits shift those in front. -/
theorem ofBits_append (as bs : List Bool) :
    ofBits (as ++ bs) = ofBits as * X ^ bs.length + ofBits bs := by
  induction as with
  | nil => simp
  | cons a as ih =>
      simp only [List.cons_append, ofBits_cons, List.length_append, ih]
      ring

theorem degree_ofBits_lt (bs : List Bool) : (ofBits bs).degree < bs.length := by
  induction bs with
  | nil => simp
  | cons b bs ih =>
      rw [ofBits_cons, List.length_cons]
      refine (degree_add_le _ _).trans_lt (max_lt ?_ ?_)
      · exact (degree_C_mul_X_pow_le _ _).trans_lt (by exact_mod_cast Nat.lt_succ_self _)
      · exact ih.trans (by exact_mod_cast Nat.lt_succ_self _)

/-- Exclusive or of equally long strings is addition. -/
theorem ofBits_zipWith_xor {as bs : List Bool} (h : as.length = bs.length) :
    ofBits (List.zipWith xor as bs) = ofBits as + ofBits bs := by
  induction as generalizing bs with
  | nil =>
      obtain rfl := List.length_eq_zero_iff.mp h.symm
      simp
  | cons a as ih =>
      cases bs with
      | nil => cases h
      | cons b bs =>
          have hlen : as.length = bs.length := Nat.succ.inj h
          have hbit : ((xor a b).toNat : ZMod 2) = a.toNat + b.toNat := by
            cases a <;> cases b <;> decide
          simp only [List.zipWith_cons_cons, ofBits_cons, ih hlen, List.length_zipWith, hlen,
            min_self, hbit, C_add]
          ring

/-- Only strings of zeros are the zero polynomial. -/
theorem ofBits_eq_zero {bs : List Bool} : ofBits bs = 0 ↔ ∀ b ∈ bs, b = false := by
  induction bs with
  | nil => simp
  | cons b bs ih =>
      rw [List.forall_mem_cons, ← ih, ofBits_cons]
      constructor
      · intro h
        have hcoeff : (ofBits bs).coeff bs.length = 0 :=
          coeff_eq_zero_of_degree_lt (degree_ofBits_lt bs)
        have hlead := congrArg (fun p ↦ p.coeff bs.length) h
        simp only [coeff_add, coeff_C_mul, coeff_X_pow_self, mul_one, hcoeff, add_zero,
          coeff_zero] at hlead
        cases b with
        | false => exact ⟨rfl, by simpa using h⟩
        | true => exact absurd hlead (by decide)
      · rintro ⟨rfl, h⟩
        simp [h]

theorem ofBits_injective {as bs : List Bool} (h : as.length = bs.length)
    (heq : ofBits as = ofBits bs) : as = bs := by
  have hzero : ofBits (List.zipWith xor as bs) = 0 := by
    rw [ofBits_zipWith_xor h, heq]
    exact CharTwo.add_self_eq_zero _
  have hxor := ofBits_eq_zero.mp hzero
  refine List.ext_getElem h fun i hi hi' ↦ ?_
  have hlt : i < (List.zipWith xor as bs).length := by
    rw [List.length_zipWith]
    exact lt_min hi hi'
  simpa using hxor _ (List.getElem_mem hlt)

/-! ## Division by a shift register -/

/-- The monic polynomial with these low coefficients. -/
noncomputable def monic (low : List Bool) : (ZMod 2)[X] := X ^ low.length + ofBits low

/-- Shift a register by one bit, adding the low coefficients for a bit that leaves
it. -/
def shift (low : List Bool) : List Bool → List Bool
  | [] => []
  | b :: bs => if b then List.zipWith xor (bs ++ [false]) low else bs ++ [false]

variable {low : List Bool}

theorem monic_monic (low : List Bool) : (monic low).Monic :=
  monic_X_pow_add (degree_ofBits_lt low)

theorem degree_monic (low : List Bool) : (monic low).degree = low.length := by
  rw [monic, degree_add_eq_left_of_degree_lt, degree_X_pow]
  rw [degree_X_pow]
  exact degree_ofBits_lt low

/-- A shift of the register multiplies by `X`. -/
theorem mk_shift {reg : List Bool} (h : reg.length = low.length) :
    AdjoinRoot.mk (monic low) (ofBits (shift low reg)) =
      AdjoinRoot.mk (monic low) (ofBits reg * X) := by
  cases reg with
  | nil => simp [shift]
  | cons b bs =>
      have hlen : (bs ++ [false]).length = low.length := by simpa using h
      have hshift : ofBits (bs ++ [false]) = ofBits bs * X := by
        simp [ofBits_append]
      have hexp : X ^ bs.length * X = (X : (ZMod 2)[X]) ^ low.length := by
        rw [← pow_succ, ← h, List.length_cons]
      cases b with
      | false => simp [shift, hshift]
      | true =>
          -- the bit that leaves the register is worth the whole polynomial
          rw [AdjoinRoot.mk_eq_mk, shift, if_pos rfl, ofBits_zipWith_xor hlen, hshift]
          refine ⟨1, ?_⟩
          have htwo : (2 : (ZMod 2)[X]) = 0 := CharTwo.two_eq_zero
          simp only [ofBits_cons, Bool.toNat_true, Nat.cast_one, C_1, one_mul, add_mul, hexp,
            monic, mul_one]
          linear_combination -X ^ low.length * htwo

/-- What is congruent to a polynomial and fits the register is its remainder. -/
theorem ofBits_eq_modByMonic {reg : List Bool} {p : (ZMod 2)[X]} (h : reg.length = low.length)
    (hmk : AdjoinRoot.mk (monic low) (ofBits reg) = AdjoinRoot.mk (monic low) p) :
    ofBits reg = p %ₘ monic low := by
  have hdegree : (ofBits reg).degree < (monic low).degree := by
    rw [degree_monic, ← h]
    exact degree_ofBits_lt reg
  rw [← (modByMonic_eq_self_iff (monic_monic low)).mpr hdegree]
  exact modByMonic_eq_of_dvd_sub (monic_monic low) (AdjoinRoot.mk_eq_mk.mp hmk)

/-! ## Bursts -/

/-- A part of a string without a set bit is zero. -/
theorem ofBits_eq_zero_of_getElem? {bs : List Bool} (h : ∀ i : ℕ, bs[i]? ≠ some true) :
    ofBits bs = 0 := by
  refine ofBits_eq_zero.mpr fun b hb ↦ ?_
  obtain ⟨i, hi⟩ := List.getElem?_of_mem hb
  cases b with
  | false => rfl
  | true => exact absurd hi (h i)

/-- Zeros in front of a window of `n` bits vanish, those behind it shift. -/
theorem ofBits_window {bs : List Bool} {k n : ℕ}
    (h : ∀ i : ℕ, bs[i]? = some true → k ≤ i ∧ i < k + n) :
    ofBits bs = ofBits ((bs.drop k).take n) * X ^ (bs.drop (k + n)).length := by
  have hfront : ofBits (bs.take k) = 0 := by
    refine ofBits_eq_zero_of_getElem? fun i hi ↦ ?_
    rw [List.getElem?_take] at hi
    split_ifs at hi with hik
    exact absurd (h i hi).1 (not_le.mpr hik)
  have hback : ofBits (bs.drop (k + n)) = 0 := by
    refine ofBits_eq_zero_of_getElem? fun i hi ↦ ?_
    rw [List.getElem?_drop] at hi
    exact absurd (h _ hi).2 (by omega)
  have hsplit : bs = bs.take k ++ ((bs.drop k).take n ++ bs.drop (k + n)) := by
    rw [← List.drop_drop, List.take_append_drop, List.take_append_drop]
  conv_lhs => rw [hsplit]
  rw [ofBits_append, ofBits_append, hfront, hback, zero_mul, zero_add, add_zero]

/-- A polynomial with a constant term is coprime to `X`. -/
theorem isCoprime_X (hlow : low.getLast? = some true) : IsCoprime (monic low) (X : (ZMod 2)[X]) := by
  obtain ⟨init, rfl⟩ := List.getLast?_eq_some_iff.mp hlow
  refine ⟨1, -(X ^ init.length + ofBits init), ?_⟩
  simp only [monic, ofBits_append, List.length_append, List.length_singleton, ofBits_cons,
    ofBits_nil, Bool.toNat_true, Nat.cast_one, C_1, List.length_nil, pow_zero]
  ring

/-- A polynomial with a constant term divides no nonzero string whose set bits lie
within as many consecutive bits as its degree. -/
theorem not_dvd_burst (hlow : low.getLast? = some true) {bs : List Bool} (hbs : true ∈ bs) {k : ℕ}
    (h : ∀ i : ℕ, bs[i]? = some true → k ≤ i ∧ i < k + low.length) : ¬ monic low ∣ ofBits bs := by
  intro hdvd
  have hwindow := ofBits_window h
  rw [hwindow] at hdvd
  have hdvd' := (isCoprime_X hlow).pow_right.dvd_of_dvd_mul_right hdvd
  have hdegree : (ofBits ((bs.drop k).take low.length)).degree < (monic low).degree := by
    rw [degree_monic]
    refine (degree_ofBits_lt _).trans_le ?_
    exact_mod_cast List.length_take_le _ _
  -- a multiple of smaller degree is zero, and the string is not
  rw [eq_zero_of_dvd_of_degree_lt hdvd' hdegree, zero_mul] at hwindow
  exact absurd (ofBits_eq_zero.mp hwindow true hbs) (by decide)

end DroneComms.BitPolynomial
