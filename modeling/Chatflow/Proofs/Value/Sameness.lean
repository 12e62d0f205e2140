import Chatflow.Proofs.Number.Nearest
import Chatflow.Proofs.Value.Rendering
import Mathlib.Data.Fintype.EquivFin

/-!
# Equality of values

`Value.same` tells numbers by where they lie (`Value.locus?`), and containers by what is in them.  It is transitive
(`same_trans`), and symmetric when no two keys of a dictionary are the same (`same_symm`): the entries of one dictionary
are found in the other one, and when that has no more, all of its entries are found.  It is not reflexive, since what is
no number is not even the same as itself.

Values that are the same stand for numbers at the same place, though integers are rounded there
(`position_of_same`).
-/

namespace Chatflow

namespace Binary64

theorem same_iff {x y : Binary64} : x.same y = true ↔ ∃ p, x.position = some p ∧ y.position = some p := by
  unfold same
  cases hx : x.position with
  | none => exact ⟨nofun, fun ⟨_, h, _⟩ => nomatch h⟩
  | some p =>
    cases hy : y.position with
    | none => exact ⟨nofun, fun ⟨_, _, h⟩ => nomatch h⟩
    | some q =>
      constructor
      · intro h
        obtain rfl := beq_iff_eq.mp h
        exact ⟨p, rfl, rfl⟩
      · rintro ⟨r, hp, hq⟩
        exact beq_iff_eq.mpr (Option.some.inj (hp.trans hq.symm))

/-- On which side an infinity lies; a finite number is in the middle. -/
def side : Binary64 → Int
  | nan => 0
  | infinite negative => if negative then -1 else 1
  | finite _ _ _ => 0

theorem side_cases {x : Binary64} {p : Int} (h : x.position = some p) :
    (x.side = 0 ∧ -(limit : Int) < p ∧ p < limit) ∨ (x.side = -1 ∧ p = -(limit : Int)) ∨
      (x.side = 1 ∧ p = limit) := by
  cases x with
  | nan => cases h
  | infinite negative =>
    cases negative
    · exact Or.inr (Or.inr ⟨rfl, (Option.some.inj h).symm⟩)
    · exact Or.inr (Or.inl ⟨rfl, (Option.some.inj h).symm⟩)
  | finite negative units onGrid =>
    rw [position_finite, Option.some_inj] at h
    have habs := natAbs_place negative units
    have hlt := onGrid.1
    rw [h] at habs
    exact Or.inl ⟨rfl, by omega, by omega⟩

/-- The infinities lie outside the finite numbers, so that the place tells them apart. -/
theorem side_eq_of_position {x y : Binary64} {p : Int} (hx : x.position = some p) (hy : y.position = some p) :
    x.side = y.side := by
  have hlimit := limit_pos
  rcases side_cases hx with ⟨h, _, _⟩ | ⟨h, _⟩ | ⟨h, _⟩ <;> rcases side_cases hy with ⟨h', _, _⟩ | ⟨h', _⟩ | ⟨h', _⟩ <;>
    omega

end Binary64

namespace Value

open Binary64

/-! ## Numbers -/

/-- Where a value that is a number lies on the line, and on which side when it is an infinity. -/
def locus? : Value → Option (Int × Int)
  | bool b => some (0, (if b then 1 else 0) * one)
  | int n => some (0, n * one)
  | real x => x.position.map (x.side, ·)
  | _ => none

theorem locus?_of_whole {v : Value} {n : Int} (h : v.whole? = some n) : v.locus? = some (0, n * one) := by
  cases v with
  | bool b =>
    obtain rfl := Option.some.inj h
    rfl
  | int m =>
    obtain rfl := Option.some.inj h
    rfl
  | _ => cases h

theorem sameInt_iff_locus? {x : Binary64} {n : Int} : x.sameInt n = true ↔ (real x).locus? = some (0, n * one) := by
  rw [locus?, Option.map_eq_some_iff]
  cases x with
  | nan => exact ⟨fun h => Bool.noConfusion h, fun ⟨_, h, _⟩ => nomatch h⟩
  | infinite negative =>
    refine ⟨fun h => Bool.noConfusion h, fun ⟨p, _, h⟩ => ?_⟩
    have hside := (Prod.mk.inj h).1
    cases negative <;> cases hside
  | finite negative units onGrid =>
    rw [sameInt_finite_iff, position_finite]
    constructor
    · intro h
      exact ⟨_, rfl, Prod.ext rfl h⟩
    · rintro ⟨p, hp, h⟩
      exact (Option.some.inj hp).trans (Prod.mk.inj h).2

theorem same_iff_locus? {x y : Binary64} :
    x.same y = true ↔ ∃ l, (real x).locus? = some l ∧ (real y).locus? = some l := by
  simp only [locus?, Option.map_eq_some_iff]
  rw [same_iff]
  constructor
  · rintro ⟨p, hx, hy⟩
    exact ⟨_, ⟨p, hx, rfl⟩, p, hy, by rw [side_eq_of_position hx hy]⟩
  · rintro ⟨l, ⟨p, hx, rfl⟩, q, hy, h⟩
    exact ⟨p, hx, (Prod.mk.inj h).2 ▸ hy⟩

theorem whole_inj {m n : Int} : ((0, m * one) : Int × Int) = (0, n * one) ↔ m = n := by
  have hone : ((one : Nat) : Int) ≠ 0 := Int.natCast_ne_zero.mpr (Nat.ne_of_gt Binary64.one_pos)
  rw [Prod.mk.injEq, Int.mul_eq_mul_right_iff hone]
  exact and_iff_right rfl

/-- **Numbers are the same when they lie at the same place.** -/
theorem sameNumber_iff {v w : Value} : v.sameNumber w = true ↔ ∃ l, v.locus? = some l ∧ w.locus? = some l := by
  unfold sameNumber
  cases hv : v.whole? with
  | some m =>
    rw [locus?_of_whole hv]
    cases hw : w.whole? with
    | some n =>
      rw [locus?_of_whole hw]
      simp only [beq_iff_eq, Option.some_inj, exists_eq_left', whole_inj]
      exact eq_comm
    | none =>
      cases w with
      | real y => simp only [sameInt_iff_locus?, Option.some_inj, exists_eq_left']
      | bool | int => cases hw
      | _ => exact iff_of_false nofun fun ⟨_, _, h⟩ => nomatch h
  | none =>
    cases hw : w.whole? with
    | some n =>
      rw [locus?_of_whole hw]
      cases v with
      | real x => simp only [sameInt_iff_locus?, Option.some_inj, exists_eq_right']
      | bool | int => cases hv
      | _ => exact iff_of_false nofun fun ⟨_, h, _⟩ => nomatch h
    | none =>
      cases v with
      | real x =>
        cases w with
        | real y => exact same_iff_locus?
        | bool | int => cases hw
        | _ => exact iff_of_false nofun fun ⟨_, _, h⟩ => nomatch h
      | bool | int => cases hv
      | _ => exact iff_of_false nofun fun ⟨_, h, _⟩ => nomatch h

/-! ## Other values -/

theorem same_of_isNumeric {v : Value} (h : v.isNumeric = true) (w : Value) : v.same w = v.sameNumber w := by
  cases v with
  | bool | int | real => cases w <;> rfl
  | _ => cases h

theorem same_null_iff {w : Value} : null.same w = true ↔ w = null := by
  cases w <;> simp [same, sameNumber, whole?]

theorem same_text_iff {s : String} {w : Value} : (text s).same w = true ↔ w = text s := by
  cases w with
  | text t =>
    rw [same, beq_iff_eq, text.injEq]
    exact eq_comm
  | _ => simp [same, sameNumber, whole?]

theorem same_list_iff {xs : List Value} {w : Value} :
    (list xs).same w = true ↔ ∃ ys, w = list ys ∧ sameItems xs ys = true := by
  cases w <;> simp [same, sameNumber, whole?]

theorem same_tuple_iff {xs : List Value} {w : Value} :
    (tuple xs).same w = true ↔ ∃ ys, w = tuple ys ∧ sameItems xs ys = true := by
  cases w <;> simp [same, sameNumber, whole?]

theorem sameEntries_iff {xs ys : List (Value × Value)} :
    sameEntries xs ys = true ↔ ∀ e ∈ xs, ∃ f ∈ ys, e.1.same f.1 = true ∧ e.2.same f.2 = true := by
  induction xs with
  | nil => simp [sameEntries]
  | cons e xs ih => simp [sameEntries, ih]

theorem same_dictionary_iff {xs : List (Value × Value)} {w : Value} :
    (dictionary xs).same w = true ↔ ∃ ys, w = dictionary ys ∧ xs.length = ys.length ∧
      ∀ e ∈ xs, ∃ f ∈ ys, e.1.same f.1 = true ∧ e.2.same f.2 = true := by
  cases w <;> simp [same, sameNumber, whole?, sameEntries_iff]

/-! ## Symmetry and transitivity -/

/-- No two keys of a dictionary in a value are the same. -/
inductive KeysDiffer : Value → Prop
  | plain {v : Value} (single : v.isContainer = false) : KeysDiffer v
  | list {items : List Value} (each : ∀ item ∈ items, KeysDiffer item) : KeysDiffer (list items)
  | tuple {items : List Value} (each : ∀ item ∈ items, KeysDiffer item) : KeysDiffer (tuple items)
  | dictionary {entries : List (Value × Value)} (apart : entries.Pairwise fun e f => e.1.same f.1 = false)
      (keys : ∀ e ∈ entries, KeysDiffer e.1) (each : ∀ e ∈ entries, KeysDiffer e.2) : KeysDiffer (dictionary entries)

theorem keysDiffer_of_plain {entries : List (Value × Value)}
    (apart : entries.Pairwise fun e f => e.1.same f.1 = false)
    (each : ∀ e ∈ entries, e.1.isContainer = false ∧ e.2.isContainer = false) : (dictionary entries).KeysDiffer :=
  .dictionary apart (fun e he => .plain (each e he).1) fun e he => .plain (each e he).2

theorem sameItems_symm {xs ys : List Value} (hsymm : ∀ x ∈ xs, ∀ y, x.same y = true → y.same x = true)
    (h : sameItems xs ys = true) : sameItems ys xs = true := by
  induction xs generalizing ys with
  | nil => cases ys with
    | nil => rfl
    | cons y ys => cases h
  | cons x xs ih => cases ys with
    | nil => cases h
    | cons y ys =>
      obtain ⟨hx, hxs⟩ := Bool.and_eq_true_iff.mp h
      obtain ⟨hfirst, hrest⟩ := List.forall_mem_cons.mp hsymm
      exact Bool.and_eq_true_iff.mpr ⟨hfirst y hx, ih hrest hxs⟩

theorem sameItems_trans {xs ys zs : List Value}
    (htrans : ∀ x ∈ xs, ∀ y z, x.same y = true → y.same z = true → x.same z = true)
    (h : sameItems xs ys = true) (h' : sameItems ys zs = true) : sameItems xs zs = true := by
  induction xs generalizing ys zs with
  | nil => cases ys with
    | nil => exact h'
    | cons y ys => cases h
  | cons x xs ih => cases ys with
    | nil => cases h
    | cons y ys => cases zs with
      | nil => cases h'
      | cons z zs =>
        obtain ⟨hx, hxs⟩ := Bool.and_eq_true_iff.mp h
        obtain ⟨hy, hys⟩ := Bool.and_eq_true_iff.mp h'
        obtain ⟨hfirst, hrest⟩ := List.forall_mem_cons.mp htrans
        exact Bool.and_eq_true_iff.mpr ⟨hfirst y z hx hy, ih hrest hxs hys⟩

theorem same_plain_iff {v : Value} (single : v.isContainer = false) {w : Value} :
    v.same w = true ↔ (v.isNumeric = false ∧ w = v) ∨ ∃ l, v.locus? = some l ∧ w.locus? = some l := by
  cases v with
  | null =>
    rw [same_null_iff]
    constructor
    · exact fun h => Or.inl ⟨rfl, h⟩
    · rintro (⟨-, h⟩ | ⟨_, h, -⟩)
      · exact h
      · cases h
  | text s =>
    rw [same_text_iff]
    constructor
    · exact fun h => Or.inl ⟨rfl, h⟩
    · rintro (⟨-, h⟩ | ⟨_, h, -⟩)
      · exact h
      · cases h
  | bool | int | real =>
    rw [same_of_isNumeric rfl, sameNumber_iff]
    simp [isNumeric]
  | _ => cases single

/-- **Equality of values is transitive.** -/
theorem same_trans {u : Value} (hu : u.KeysDiffer) {v w : Value} (huv : u.same v = true) (hvw : v.same w = true) :
    u.same w = true := by
  induction hu generalizing v w with
  | @plain u single =>
    rcases (same_plain_iff single).mp huv with ⟨-, rfl⟩ | ⟨l, hu, hv⟩
    · exact hvw
    · have hnumber : v.isNumeric = true := by cases v <;> first | rfl | cases hv
      rw [same_of_isNumeric hnumber, sameNumber_iff] at hvw
      obtain ⟨m, hv', hw⟩ := hvw
      obtain rfl := Option.some.inj (hv.symm.trans hv')
      exact (same_plain_iff single).mpr (Or.inr ⟨l, hu, hw⟩)
  | list each ih =>
    obtain ⟨ys, rfl, hxy⟩ := same_list_iff.mp huv
    obtain ⟨zs, rfl, hyz⟩ := same_list_iff.mp hvw
    exact same_list_iff.mpr ⟨zs, rfl, sameItems_trans (fun x hx _ _ h h' => ih x hx h h') hxy hyz⟩
  | tuple each ih =>
    obtain ⟨ys, rfl, hxy⟩ := same_tuple_iff.mp huv
    obtain ⟨zs, rfl, hyz⟩ := same_tuple_iff.mp hvw
    exact same_tuple_iff.mpr ⟨zs, rfl, sameItems_trans (fun x hx _ _ h h' => ih x hx h h') hxy hyz⟩
  | dictionary apart keys each ihkeys iheach =>
    obtain ⟨ys, rfl, hlength, hxy⟩ := same_dictionary_iff.mp huv
    obtain ⟨zs, rfl, hlength', hyz⟩ := same_dictionary_iff.mp hvw
    refine same_dictionary_iff.mpr ⟨zs, rfl, hlength.trans hlength', fun e he => ?_⟩
    obtain ⟨f, hf, hkey, hvalue⟩ := hxy e he
    obtain ⟨g, hg, hkey', hvalue'⟩ := hyz f hf
    exact ⟨g, hg, ihkeys e he hkey hkey', iheach e he hvalue hvalue'⟩

/-- When every entry finds one in a dictionary that has no more, and no two of them find the same, all are found. -/
theorem exists_of_found {α β : Type} {xs : List α} {ys : List β} {r : α → β → Prop} (hlength : xs.length = ys.length)
    (hfound : ∀ x ∈ xs, ∃ y ∈ ys, r x y) (honce : xs.Pairwise fun x x' => ∀ y, r x y → ¬r x' y) :
    ∀ y ∈ ys, ∃ x ∈ xs, r x y := by
  have hplace : ∀ i : Fin xs.length, ∃ j : Fin ys.length, r xs[i] ys[j] := by
    intro i
    obtain ⟨y, hy, hr⟩ := hfound xs[i] (List.getElem_mem i.isLt)
    obtain ⟨j, hj, rfl⟩ := List.getElem_of_mem hy
    exact ⟨⟨j, hj⟩, hr⟩
  choose place hplace using hplace
  have hinjective : Function.Injective place := by
    intro i j hij
    by_contra hne
    have hr := hplace i
    rw [hij] at hr
    rcases Nat.lt_or_gt_of_ne (Fin.val_ne_of_ne hne) with hlt | hlt
    · exact List.pairwise_iff_getElem.mp honce i j i.isLt j.isLt hlt _ hr (hplace j)
    · exact List.pairwise_iff_getElem.mp honce j i j.isLt i.isLt hlt _ (hplace j) hr
  have hsurjective : Function.Surjective place :=
    ((Fintype.bijective_iff_injective_and_card place).mpr ⟨hinjective, by simpa using hlength⟩).surjective
  intro y hy
  obtain ⟨j, hj, rfl⟩ := List.getElem_of_mem hy
  obtain ⟨i, hi⟩ := hsurjective ⟨j, hj⟩
  have hr := hplace i
  rw [hi] at hr
  exact ⟨xs[i], List.getElem_mem i.isLt, hr⟩

/-- **Equality of values is symmetric** when no two keys of a dictionary are the same. -/
theorem same_symm {v : Value} (hv : v.KeysDiffer) {w : Value} (h : v.same w = true) : w.same v = true := by
  induction hv generalizing w with
  | @plain v single =>
    rcases (same_plain_iff single).mp h with ⟨-, rfl⟩ | ⟨l, hv, hw⟩
    · exact h
    · have hnumber : w.isNumeric = true := by cases w <;> first | rfl | cases hw
      rw [same_of_isNumeric hnumber, sameNumber_iff]
      exact ⟨l, hw, hv⟩
  | list each ih =>
    obtain ⟨ys, rfl, hxy⟩ := same_list_iff.mp h
    exact same_list_iff.mpr ⟨_, rfl, sameItems_symm (fun x hx _ h => ih x hx h) hxy⟩
  | tuple each ih =>
    obtain ⟨ys, rfl, hxy⟩ := same_tuple_iff.mp h
    exact same_tuple_iff.mpr ⟨_, rfl, sameItems_symm (fun x hx _ h => ih x hx h) hxy⟩
  | @dictionary entries apart keys each ihkeys iheach =>
    obtain ⟨ys, rfl, hlength, hxy⟩ := same_dictionary_iff.mp h
    refine same_dictionary_iff.mpr ⟨_, rfl, hlength.symm, ?_⟩
    have honce : entries.Pairwise fun e e' => ∀ f : Value × Value,
        (e.1.same f.1 = true ∧ e.2.same f.2 = true) → ¬(e'.1.same f.1 = true ∧ e'.2.same f.2 = true) := by
      refine apart.imp_of_mem fun {e e'} he he' hne f hf hf' => ?_
      have hkeys : e.1.same e'.1 = true := same_trans (keys e he) hf.1 (ihkeys e' he' hf'.1)
      rw [hkeys] at hne
      cases hne
    intro f hf
    obtain ⟨e, he, hkey, hvalue⟩ := exists_of_found hlength hxy honce f hf
    exact ⟨e, he, ihkeys e he hkey, iheach e he hvalue⟩

theorem same_comm_of_keysDiffer {v w : Value} (hv : v.KeysDiffer) (hw : w.KeysDiffer) : v.same w = w.same v := by
  rw [Bool.eq_iff_iff]
  exact ⟨same_symm hv, same_symm hw⟩

/-! ## The numbers that values stand for -/

theorem number_of_whole {v : Value} {n : Int} (h : v.whole? = some n) :
    v.number = (ofInt? n).elim (.error .tooLarge) .ok := by
  cases v with
  | bool b =>
    obtain rfl := Option.some.inj h
    have hround : ofInt? (if b then 1 else 0) = some (ofRatio false (if b then 1 else 0) 1) := by
      cases b
      · exact ofInt?_eq_some_iff.mpr ⟨rfl, by decide +kernel⟩
      · exact ofInt?_eq_some_iff.mpr ⟨rfl, by decide +kernel⟩
    rw [hround]
    rfl
  | int m =>
    obtain rfl := Option.some.inj h
    rfl
  | _ => cases h

theorem ofInt?_of_number {v : Value} {n : Int} {x : Binary64} (h : v.whole? = some n) (hx : v.number = .ok x) :
    ofInt? n = some x := by
  rw [number_of_whole h] at hx
  cases hn : ofInt? n with
  | none =>
    rw [hn] at hx
    cases hx
  | some y =>
    rw [hn] at hx
    exact congrArg some (Except.ok.inj hx)

/-- What is a number is a whole one or a double-precision one. -/
theorem isNumeric_cases {v : Value} (h : v.isNumeric = true) : (∃ n, v.whole? = some n) ∨ ∃ x, v = real x := by
  cases v with
  | bool b => exact Or.inl ⟨_, rfl⟩
  | int n => exact Or.inl ⟨_, rfl⟩
  | real x => exact Or.inr ⟨x, rfl⟩
  | _ => cases h

theorem isNumeric_of_locus? {v : Value} {l : Int × Int} (h : v.locus? = some l) : v.isNumeric = true := by
  cases v <;> first | rfl | cases h

/-- The numbers of values at one place are at one place, though that may be another one. -/
theorem position_of_locus? {v w : Value} {l : Int × Int} {x y : Binary64} (hv : v.locus? = some l)
    (hw : w.locus? = some l) (hx : v.number = .ok x) (hy : w.number = .ok y) : x.position = y.position := by
  rcases isNumeric_cases (isNumeric_of_locus? hv) with ⟨m, hm⟩ | ⟨x, rfl⟩
  · rcases isNumeric_cases (isNumeric_of_locus? hw) with ⟨n, hn⟩ | ⟨y, rfl⟩
    · rw [locus?_of_whole hm] at hv
      rw [locus?_of_whole hn] at hw
      obtain rfl := whole_inj.mp (Option.some.inj (hv.trans hw.symm))
      have hsame := (ofInt?_of_number hm hx).symm.trans (ofInt?_of_number hn hy)
      rw [Option.some.inj hsame]
    · obtain rfl := Except.ok.inj hy
      rw [locus?_of_whole hm] at hv
      exact position_ofInt? (sameInt_iff_locus?.mpr (hw.trans hv.symm)) (ofInt?_of_number hm hx)
  · obtain rfl := Except.ok.inj hx
    rcases isNumeric_cases (isNumeric_of_locus? hw) with ⟨n, hn⟩ | ⟨y, rfl⟩
    · rw [locus?_of_whole hn] at hw
      exact (position_ofInt? (sameInt_iff_locus?.mpr (hv.trans hw.symm)) (ofInt?_of_number hn hy)).symm
    · obtain rfl := Except.ok.inj hy
      obtain ⟨p, hx, hy⟩ := same_iff.mp (same_iff_locus?.mpr ⟨l, hv, hw⟩)
      rw [hx, hy]

/-- **Values that are the same stand for numbers at the same place.** -/
theorem position_of_same {v w : Value} {x y : Binary64} (h : v.same w = true) (hx : v.number = .ok x)
    (hy : w.number = .ok y) : x.position = y.position := by
  by_cases hv : v.isNumeric = true
  · rw [same_of_isNumeric hv, sameNumber_iff] at h
    obtain ⟨l, hv, hw⟩ := h
    exact position_of_locus? hv hw hx hy
  · cases v with
    | null =>
      obtain rfl := same_null_iff.mp h
      rw [← Except.ok.inj hx, ← Except.ok.inj hy]
    | text s =>
      obtain rfl := same_text_iff.mp h
      rw [Except.ok.inj (hx.symm.trans hy)]
    | list xs =>
      obtain ⟨ys, rfl, -⟩ := same_list_iff.mp h
      rw [← Except.ok.inj hx, ← Except.ok.inj hy]
    | tuple xs =>
      obtain ⟨ys, rfl, -⟩ := same_tuple_iff.mp h
      rw [← Except.ok.inj hx, ← Except.ok.inj hy]
    | dictionary xs =>
      obtain ⟨ys, rfl, -⟩ := same_dictionary_iff.mp h
      rw [← Except.ok.inj hx, ← Except.ok.inj hy]
    | bool | int | real => exact absurd rfl hv

end Value

end Chatflow
