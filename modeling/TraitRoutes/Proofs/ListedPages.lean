import Mathlib.Data.Int.Interval
import TraitRoutes.Proofs.StoredRecords

/-!
# Pages of the items

A listing leaves out the items of the pages before it and takes as many of the rest as a page
holds. Both numbers come from the client, so the first thing to see is what they are cut to: an
index below one is the first page, and a size below one leaves no room for an item.

With a size that leaves room, the pages from the first one on are the stretches of the list that
end at the multiples of the size. Joined in order they are a front of the list, and all of it as
soon as they have room for it. Since the numbers of the items increase from one, there are never
more items than the largest number, so the indices that reach the last page are small enough to be
sent whenever the numbers are.

How many items are left out is a product of two numbers of 32 bits. Cut as they are, they
have 31 bits each, so it is exact in a word of 64 bits.
-/

namespace TraitRoutes.Demo

variable {α : Type}

/-! ## Stretches of a list -/

theorem flatMap_stretches (xs : List α) (size n : Nat) :
    ((List.range n).flatMap fun i => (xs.drop (i * size)).take size) = xs.take (n * size) := by
  induction n with
  | zero => rw [Nat.zero_mul, List.take_zero, List.range_zero, List.flatMap_nil]
  | succ n ih =>
      rw [List.range_succ, List.flatMap_append, ih, List.flatMap_singleton, Nat.succ_mul,
        List.take_add]

/-- Behind a stretch that is not full there is nothing. -/
theorem length_stretch {xs : List α} {size i j : Nat} (hij : i < j)
    (hlater : (xs.drop (j * size)).take size ≠ []) :
    ((xs.drop (i * size)).take size).length = size := by
  have hroom : j * size < xs.length := by
    by_contra hend
    rw [List.drop_eq_nil_of_le (Nat.not_lt.mp hend), List.take_nil] at hlater
    exact hlater rfl
  have hnext : (i + 1) * size ≤ j * size := Nat.mul_le_mul_right size hij
  rw [Nat.succ_mul] at hnext
  rw [List.length_take, List.length_drop, Nat.min_eq_left (by omega)]

/-- There are no more records than the largest of their numbers. -/
theorem Numbered.length_le {number : α → Int} {bound n : Nat} {records : List α}
    (h : Numbered number bound records) (hn : ∀ r ∈ records, number r ≤ n) :
    records.length ≤ n := by
  have hsubset : (records.map number).toFinset ⊆ Finset.Icc 1 (n : Int) := by
    intro id hid
    obtain ⟨r, hr, rfl⟩ := List.mem_map.mp (List.mem_toFinset.mp hid)
    exact Finset.mem_Icc.mpr ⟨h.positive r hr, hn r hr⟩
  have hcard := Finset.card_le_card hsubset
  rw [List.toFinset_card_of_nodup h.nodup, List.length_map, Int.card_Icc] at hcard
  omega

namespace SampleStore

variable (s : SampleStore)

/-! ## One page -/

/-- How many items are in front of a page. -/
def skipped (index size : Int) : Nat := (max index 1 - 1).toNat * (max size 0).toNat

/-- How many items are in front of a page, in the words of a machine. -/
def skippedWord (index size : Int32) : UInt64 :=
  (max index 1 - 1).toNatClampNeg.toUInt64 * (max size 0).toNatClampNeg.toUInt64

theorem page_eq (index size : Int) :
    s.page index size = (s.items.drop (skipped index size)).take (max size 0).toNat := rfl

theorem page_of_index_le {index : Int} (hindex : index ≤ 1) (size : Int) :
    s.page index size = s.page 1 size := by
  rw [page_eq, page_eq, skipped, skipped, max_eq_right hindex, max_self]

theorem page_of_size_le {size : Int} (hsize : size ≤ 0) (index : Int) : s.page index size = [] := by
  rw [page_eq, max_eq_right hsize]
  exact List.take_zero

theorem page_succ (i size : Nat) :
    s.page (i + 1) size = (s.items.drop (i * size)).take size := by
  have hindex : (max ((i : Int) + 1) 1 - 1).toNat = i := by omega
  have hsize : (max (size : Int) 0).toNat = size := by omega
  rw [page_eq, skipped, hindex, hsize]

end SampleStore

/-! ## The words of a machine -/

theorem toInt_max (a b : Int32) : (max a b).toInt = max a.toInt b.toInt := by
  change (if a ≤ b then b else a).toInt = _
  rw [Int.max_def]
  simp only [Int32.le_iff_toInt_le]
  split <;> rfl

theorem toNat_index (index : Int32) :
    (max index 1 - 1).toNatClampNeg = (max index.toInt 1 - 1).toNat := by
  have hlow := index.le_toInt
  have hhigh := index.toInt_lt
  have hone : (1 : Int32).toInt = 1 := rfl
  have hexact : (max index.toInt 1 - 1).bmod (2 ^ 32) = max index.toInt 1 - 1 :=
    Int.bmod_eq_of_le (by omega) (by omega)
  rw [Int32.toNatClampNeg, Int32.toInt_sub, toInt_max, hone, hexact]

theorem toNat_size (size : Int32) : (max size 0).toNatClampNeg = (max size.toInt 0).toNat := by
  have hzero : (0 : Int32).toInt = 0 := rfl
  rw [Int32.toNatClampNeg, toInt_max, hzero]

namespace SampleStore

theorem skipped_lt (index size : Int32) : skipped index.toInt size.toInt < 2 ^ 64 := by
  have hindex := index.toInt_lt
  have hsize := size.toInt_lt
  calc (max index.toInt 1 - 1).toNat * (max size.toInt 0).toNat
      ≤ 2 ^ 31 * 2 ^ 31 := Nat.mul_le_mul (by omega) (by omega)
    _ < 2 ^ 64 := by decide

/-- The words of a machine hold the number of items in front of a page. -/
theorem toNat_skippedWord (index size : Int32) :
    (skippedWord index size).toNat = skipped index.toInt size.toInt := by
  have hindex := index.toInt_lt
  have hsize := size.toInt_lt
  have hbefore : (max index.toInt 1 - 1).toNat < UInt64.size := by
    rw [UInt64.size]
    omega
  have hcount : (max size.toInt 0).toNat < UInt64.size := by
    rw [UInt64.size]
    omega
  rw [skippedWord, toNat_index, toNat_size, UInt64.toNat_mul, UInt64.toNat_ofNat_of_lt' hbefore,
    UInt64.toNat_ofNat_of_lt' hcount, ← skipped, Nat.mod_eq_of_lt (skipped_lt index size)]

/-! ## All pages -/

/-- A store is listed in pages of each size: joined from the first one on they are its items, of
which no two have the same number. -/
structure Paginates (s : SampleStore) : Prop where
  distinct : (s.items.map Item.id).Nodup
  /-- The first pages, as soon as they have room for all items, are the items. -/
  whole : ∀ (size : Int) (n : Nat), 1 ≤ size → s.items.length ≤ n * size →
    ((List.range n).flatMap fun (i : Nat) => s.page (i + 1) size) = s.items
  /-- There is no item behind a page that is not full. -/
  full : ∀ size index later, 1 ≤ size → 1 ≤ index → index < later → s.page later size ≠ [] →
    (s.page index size).length = size
  /-- Behind the pages that have room for all items there are only empty ones. -/
  ends : ∀ (size : Int) (n : Nat) (later : Int), 1 ≤ size → s.items.length ≤ n * size →
    n < later → s.page later size = []
  most : ∀ size index, 0 ≤ size → (s.page index size).length ≤ size
  first : ∀ index size, index < 1 → s.page index size = s.page 1 size
  empty : ∀ index size, size ≤ 0 → s.page index size = []

theorem paginates {s : SampleStore} {bound : Nat} (h : Numbered Item.id bound s.items) :
    s.Paginates where
  distinct := h.nodup
  whole size n hsize hroom := by
    obtain ⟨size, rfl⟩ := Int.eq_ofNat_of_zero_le (Int.le_of_lt hsize)
    have hroom : s.items.length ≤ n * size := by exact_mod_cast hroom
    simp only [page_succ]
    rw [flatMap_stretches, List.take_of_length_le hroom]
  full size index later hsize hindex hlater hitem := by
    obtain ⟨size, rfl⟩ := Int.eq_ofNat_of_zero_le (Int.le_of_lt hsize)
    obtain ⟨i, hi⟩ := Int.eq_ofNat_of_zero_le (show 0 ≤ index - 1 by omega)
    obtain ⟨j, hj⟩ := Int.eq_ofNat_of_zero_le (show 0 ≤ later - 1 by omega)
    obtain rfl : index = i + 1 := by omega
    obtain rfl : later = j + 1 := by omega
    rw [page_succ] at hitem ⊢
    rw [length_stretch (by omega) hitem]
  ends size n later hsize hroom hlater := by
    obtain ⟨size, rfl⟩ := Int.eq_ofNat_of_zero_le (Int.le_of_lt hsize)
    obtain ⟨j, hj⟩ := Int.eq_ofNat_of_zero_le (show 0 ≤ later - 1 by omega)
    obtain rfl : later = j + 1 := by omega
    have hroom : s.items.length ≤ n * size := by exact_mod_cast hroom
    have hbehind : n * size ≤ j * size := Nat.mul_le_mul_right size (by omega)
    rw [page_succ, List.drop_eq_nil_of_le (Nat.le_trans hroom hbehind), List.take_nil]
  most size index hsize := by
    have hlength := List.length_take_le (max size 0).toNat (s.items.drop (skipped index size))
    rw [page_eq]
    omega
  first index size hindex := s.page_of_index_le (Int.le_of_lt hindex) size
  empty index size hsize := s.page_of_size_le hsize index

end SampleStore

/-- In every state that calls lead to, the pages of a size, from the first one on, list the items
in their order, each one once: all pages that others with items follow are full, and no item is
left out. An index below one is the first page, and a size below one lists nothing. All items are
reached by indices up to the largest number of an item, which does not exceed the length of the
run, and for numbers of 32 bits the items in front of a page are counted by a word of 64 bits. -/
theorem list_pages (calls : List Call) :
    (App.ofCalls calls).sample.Paginates ∧
      (∀ i ∈ (App.ofCalls calls).sample.items, i.id ≤ calls.length) ∧
      (∀ n : Nat, (∀ i ∈ (App.ofCalls calls).sample.items, i.id ≤ n) →
        (App.ofCalls calls).sample.items.length ≤ n) ∧
      ∀ index size : Int32,
        SampleStore.skipped index.toInt size.toInt < 2 ^ 64 ∧
          (SampleStore.skippedWord index size).toNat =
            SampleStore.skipped index.toInt size.toInt := by
  have h := (App.ofCalls_numbered calls).sample
  exact ⟨SampleStore.paginates h, h.bounded, fun _ => h.length_le, fun index size =>
    ⟨SampleStore.skipped_lt index size, SampleStore.toNat_skippedWord index size⟩⟩

/-- Three items on pages of two. -/
example :
    let s : SampleStore := ⟨[⟨1, "a", true, 0⟩, ⟨3, "b", true, 0⟩, ⟨4, "c", false, 0⟩]⟩
    [-1, 1, 2, 3].map (fun index => (s.page index 2).map Item.id) = [[1, 3], [1, 3], [4], []] := by
  decide

end TraitRoutes.Demo
