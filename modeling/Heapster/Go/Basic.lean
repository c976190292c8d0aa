import Mathlib

set_option autoImplicit false

/-! # The Go values `metrics.go` computes with

`metrics.go` converts every `uint64` counter of a cadvisor snapshot with `int64(x)` and adds
such values in `int64` accumulators. Go's `int64` is modelled as `BitVec 64` read in two's
complement (`BitVec.toInt`), so `int64(x)` keeps the 64 bits and `+` wraps modulo `2⁶⁴` exactly
as Go's does. `time.Time` is a count of nanoseconds from Go's zero time, `Time.Sub` saturates at
the ends of the `Duration` range as Go's does, and a Go `map[string]V` is a `Finmap` (one value
per key, no order); a map literal inserts its pairs left to right. -/

namespace Go

/-! ## `int64` -/

/-- Go's `int64`: 64 bits, whose value is `BitVec.toInt`. -/
abbrev Int64 := BitVec 64

/-- The conversion `int64(x)` of a `uint64`: the same bits, read as a signed number. -/
def int64 (x : UInt64) : Int64 := x.toBitVec

theorem int64_eq_ofNat (x : UInt64) : int64 x = BitVec.ofNat 64 x.toNat := by
  simp [int64, UInt64.toNat]

/-- A natural number stored in an `int64` reads back unchanged iff it is below `2⁶³`. -/
theorem toInt_ofNat_eq_iff (s : Nat) : (BitVec.ofNat 64 s).toInt = s ↔ s < 2 ^ 63 := by
  rw [BitVec.toInt_eq_toNat_cond, BitVec.toNat_ofNat]
  split <;> omega

/-- `acc += int64(f x)` over a list: the counters' exact sum, reduced modulo `2⁶⁴`. -/
theorem foldl_add_int64 {α : Type} (f : α → UInt64) (xs : List α) (acc : Int64) :
    xs.foldl (fun acc x => acc + int64 (f x)) acc
      = acc + BitVec.ofNat 64 (xs.map fun x => (f x).toNat).sum := by
  induction xs generalizing acc with
  | nil => simp
  | cons x xs ih =>
    rw [List.foldl_cons, ih]
    simp only [List.map_cons, List.sum_cons, BitVec.ofNat_add, int64_eq_ofNat, BitVec.add_assoc]

/-! ## `time` -/

/-- A `time.Time`, as nanoseconds since Go's zero time (January 1, year 1, 00:00 UTC). -/
structure Time where
  nanos : Int := 0
deriving DecidableEq, Repr

/-- `t.IsZero()`: whether `t` is the zero time. -/
def Time.IsZero (t : Time) : Bool := t.nanos == 0

/-- `time.Duration`: an `int64` count of nanoseconds (`d.Nanoseconds()` is `d` itself). -/
abbrev Duration := Int64

/-- The ends of the `Duration` range, where `Time.Sub` saturates. -/
def minDuration : Int := -2 ^ 63

def maxDuration : Int := 2 ^ 63 - 1

/-- `t.Sub(u)`: `t - u`, or the nearer end of the `Duration` range when that overflows. -/
def Time.Sub (t u : Time) : Duration :=
  BitVec.ofInt 64 (max minDuration (min maxDuration (t.nanos - u.nanos)))

/-- `time.Since(t)` when the clock reads `now`: `now.Sub(t)`. -/
def Since (now t : Time) : Duration := now.Sub t

/-- `time.Millisecond`. -/
def Millisecond : Duration := 1000000

/-- Go's `d / time.Millisecond` is integer division truncated toward zero, with no overflow, on
    every duration. -/
theorem toInt_ofInt_sdiv_Millisecond (d : Int) (h1 : minDuration ≤ d) (h2 : d ≤ maxDuration) :
    ((BitVec.ofInt 64 d).sdiv Millisecond).toInt = d.tdiv 1000000 := by
  have hy : Millisecond.msb = false := by decide
  have hy' : Millisecond.toNat = 1000000 := rfl
  have hudiv : ∀ x y : BitVec 64, (x.udiv y).toNat = x.toNat / y.toNat :=
    fun _ _ => BitVec.toNat_udiv
  unfold minDuration maxDuration at *
  rcases le_or_lt 0 d with hd | hd
  · have hx : (BitVec.ofInt 64 d).msb = false := by
      rw [BitVec.msb_eq_decide]; simp; omega
    rw [BitVec.sdiv_eq, hx, hy]
    simp only
    rw [BitVec.toInt_eq_toNat_cond, hudiv, BitVec.toNat_ofInt, hy',
      Int.tdiv_eq_ediv hd (by norm_num)]
    split <;> omega
  · have hx : (BitVec.ofInt 64 d).msb = true := by
      rw [BitVec.msb_eq_decide]; simp; omega
    have hneg : d.tdiv 1000000 = -((-d) / 1000000) := by
      rw [← Int.tdiv_eq_ediv (by omega) (by norm_num), Int.neg_tdiv, neg_neg]
    rw [BitVec.sdiv_eq, hx, hy]
    simp only
    rw [BitVec.toInt_eq_toNat_cond, BitVec.toNat_neg, hudiv, BitVec.toNat_neg,
      BitVec.toNat_ofInt, hy', hneg]
    split <;> omega

/-- `time.Since(t) / time.Millisecond`: the elapsed nanoseconds, saturated to the `Duration`
    range, in whole milliseconds truncated toward zero. -/
theorem toInt_Since_sdiv_Millisecond (now t : Time) :
    ((Since now t).sdiv Millisecond).toInt
      = (max minDuration (min maxDuration (now.nanos - t.nanos))).tdiv 1000000 :=
  toInt_ofInt_sdiv_Millisecond _ (le_max_left _ _)
    (max_le (by unfold minDuration maxDuration; norm_num) (min_le_left _ _))

/-- Division truncated toward zero by a positive divisor is monotone. -/
theorem tdiv_le_tdiv {a b c : Int} (hc : 0 < c) (h : a ≤ b) : a.tdiv c ≤ b.tdiv c := by
  have hneg : ∀ x : Int, x < 0 → x.tdiv c = -((-x) / c) := fun x hx => by
    rw [← Int.tdiv_eq_ediv (by omega) hc.le, Int.neg_tdiv, neg_neg]
  rcases lt_or_le b 0 with hb | hb
  · rw [hneg a (by omega), hneg b hb, neg_le_neg_iff]
    exact Int.ediv_le_ediv hc (by omega)
  rw [Int.tdiv_eq_ediv hb hc.le]
  rcases lt_or_le a 0 with ha | ha
  · rw [hneg a ha]
    exact (neg_nonpos.2 (Int.ediv_nonneg (by omega) hc.le)).trans (Int.ediv_nonneg hb hc.le)
  · rw [Int.tdiv_eq_ediv ha hc.le]
    exact Int.ediv_le_ediv hc h

/-- `time.Since(t) / time.Millisecond` never decreases as the clock advances. -/
theorem toInt_Since_sdiv_Millisecond_le {now now' : Time} (t : Time)
    (h : now.nanos ≤ now'.nanos) :
    ((Since now t).sdiv Millisecond).toInt ≤ ((Since now' t).sdiv Millisecond).toInt := by
  rw [toInt_Since_sdiv_Millisecond, toInt_Since_sdiv_Millisecond]
  exact tdiv_le_tdiv (by norm_num) (max_le_max le_rfl (min_le_min le_rfl (by omega)))

/-! ## `map[string]V` -/

/-- A Go `map[string]V`. -/
abbrev StringMap (V : Type) := Finmap (fun _ : String => V)

/-- A map literal `{k₁: v₁, k₂: v₂, …}`: the pairs inserted in order, so a later key equal to
    an earlier one replaces it. -/
def mapLit {V : Type} (kvs : List (String × V)) : StringMap V :=
  kvs.foldl (fun m kv => m.insert kv.1 kv.2) ∅

@[simp] theorem mapLit_singleton {V : Type} (k : String) (v : V) :
    mapLit [(k, v)] = Finmap.singleton k v := by
  simp [mapLit, Finmap.insert, Finmap.singleton, EmptyCollection.emptyCollection]
  rfl

/-- Two one-entry literals with the same key are equal exactly when their values are. -/
theorem mapLit_singleton_inj {V : Type} (k : String) (v v' : V) :
    mapLit [(k, v)] = mapLit [(k, v')] ↔ v = v' := by
  refine ⟨fun h => ?_, fun h => h ▸ rfl⟩
  simpa [Finmap.lookup_singleton_eq] using congrArg (Finmap.lookup k) h

/-- Inserting keys other than `k` leaves `k`'s lookup as it was. -/
theorem lookup_foldl_insert_of_not_mem {V : Type} (kvs : List (String × V)) (m : StringMap V)
    {k : String} (h : k ∉ kvs.map Prod.fst) :
    (kvs.foldl (fun m kv => m.insert kv.1 kv.2) m).lookup k = m.lookup k := by
  induction kvs generalizing m with
  | nil => rfl
  | cons kv rest ih =>
    rw [List.map_cons, List.mem_cons, not_or] at h
    rw [List.foldl_cons, ih _ h.2, Finmap.lookup_insert_of_ne _ h.1]

/-- In a literal whose keys are distinct, every listed key maps to its listed value. -/
theorem lookup_mapLit_of_mem {V : Type} {kvs : List (String × V)}
    (hkeys : (kvs.map Prod.fst).Nodup) {k : String} {v : V} (hmem : (k, v) ∈ kvs) :
    (mapLit kvs).lookup k = some v := by
  suffices ∀ m : StringMap V,
      (kvs.foldl (fun m kv => m.insert kv.1 kv.2) m).lookup k = some v from this ∅
  induction kvs with
  | nil => cases hmem
  | cons kv rest ih =>
    rw [List.map_cons, List.nodup_cons] at hkeys
    intro m
    rcases List.mem_cons.1 hmem with rfl | hrest
    · rw [List.foldl_cons, lookup_foldl_insert_of_not_mem _ _ hkeys.1, Finmap.lookup_insert]
    · exact ih hkeys.2 hrest _

end Go
