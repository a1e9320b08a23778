import Mathlib.Data.Int.ModEq
import Mathlib.Data.List.Pairwise

/-!
# Flat memory, regions, and vectored transfers

A memory is a function from addresses to cells. A transfer moves a string between a list of
regions, filled one after the other, and a buffer: `scatter` is the direction into the regions,
`gather` the direction out of them. What a scatter put into pairwise disjoint regions is what a
gather finds there (`gather_scatter`), and neither sees a write outside its regions
(`scatter_apply_of_not_mem`, `gather_congr`).
-/

namespace Memory

variable {β : Type*}

/-- An interval of addresses. -/
structure Region where
  /-- Where it starts. -/
  addr : ℕ
  /-- How long it is. -/
  len : ℕ
  deriving DecidableEq

namespace Region

/-- The address is one of the region. -/
def Contains (r : Region) (a : ℕ) : Prop := r.addr ≤ a ∧ a < r.addr + r.len

/-- The regions have no address in common. -/
def Disjoint (r s : Region) : Prop :=
  r.len = 0 ∨ s.len = 0 ∨ r.addr + r.len ≤ s.addr ∨ s.addr + s.len ≤ r.addr

instance (r s : Region) : Decidable (r.Disjoint s) := inferInstanceAs (Decidable (_ ∨ _))

variable {r s : Region}

/-- Disjointness is symmetric. -/
theorem Disjoint.symm (h : r.Disjoint s) : s.Disjoint r := by
  unfold Disjoint at *
  omega

/-- An address of a region is not in one that is disjoint from it. -/
theorem Disjoint.not_contains (h : r.Disjoint s) {a : ℕ} (hr : r.Contains a) : ¬ s.Contains a := by
  unfold Disjoint Contains at *
  omega

end Region

/-- Store `bs` at `a`. -/
def write (m : ℕ → β) (a : ℕ) (bs : List β) : ℕ → β := fun x =>
  if h : a ≤ x ∧ x - a < bs.length then bs.get ⟨x - a, h.2⟩ else m x

/-- Load `n` cells from `a`. -/
def read (m : ℕ → β) (a : ℕ) : ℕ → List β
  | 0 => []
  | n + 1 => m a :: read m (a + 1) n

/-- Fill the regions with `bs`, one after the other. -/
def scatter (m : ℕ → β) : List Region → List β → ℕ → β
  | [], _ => m
  | r :: rs, bs => scatter (write m r.addr (bs.take r.len)) rs (bs.drop r.len)

/-- Collect `n` cells from the regions, one after the other. -/
def gather (m : ℕ → β) : List Region → ℕ → List β
  | [], _ => []
  | r :: rs, n => read m r.addr (min r.len n) ++ gather m rs (n - r.len)

/-- The number of cells of the regions. -/
def capacity (rs : List Region) : ℕ := (rs.map Region.len).sum

variable {m m' : ℕ → β} {bs : List β} {a n : ℕ} {rs : List Region}

/-- A read gives as many bytes as were asked for. -/
@[simp] theorem length_read : (read m a n).length = n := by
  induction n generalizing a with
  | zero => rfl
  | succ n ih => simp [read, ih]

/-- A write leaves the bytes outside. -/
theorem write_apply_of_not_mem {x : ℕ} (h : ¬ (a ≤ x ∧ x < a + bs.length)) :
    write m a bs x = m x := dif_neg (by omega)

/-- A write of part of a region is seen nowhere else. -/
theorem write_apply_of_not_contains {r : Region} {x : ℕ} (hlen : bs.length ≤ r.len)
    (h : ¬ r.Contains x) : write m r.addr bs x = m x := by
  refine write_apply_of_not_mem ?_
  unfold Region.Contains at h
  omega

/-- Reads depend on the cells that they read only. -/
theorem read_congr (h : ∀ x, a ≤ x → x < a + n → m x = m' x) : read m a n = read m' a n := by
  induction n generalizing a with
  | zero => rfl
  | succ n ih =>
    rw [read, read, h a (by omega) (by omega), ih fun x h₁ h₂ => h x (by omega) (by omega)]

/-- What was written is read back. -/
theorem read_write (m : ℕ → β) (a : ℕ) (bs : List β) : read (write m a bs) a bs.length = bs := by
  induction bs generalizing m a with
  | nil => rfl
  | cons b bs ih =>
    have hhead : write m a (b :: bs) a = b := by
      unfold write
      rw [dif_pos ⟨le_refl a, by simp⟩]
      simp
    have htail : read (write m a (b :: bs)) (a + 1) bs.length =
        read (write m (a + 1) bs) (a + 1) bs.length := by
      refine read_congr fun x h₁ h₂ => ?_
      unfold write
      rw [dif_pos ⟨by omega, by rw [List.length_cons]; omega⟩, dif_pos ⟨h₁, by omega⟩]
      simp [show x - a = (x - (a + 1)) + 1 by omega]
    rw [List.length_cons, read, hhead, htail, ih]

/-- A scatter changes the cells of its regions only. -/
theorem scatter_apply_of_not_mem {x : ℕ} (h : ∀ r ∈ rs, ¬ r.Contains x) :
    scatter m rs bs x = m x := by
  induction rs generalizing m bs with
  | nil => rfl
  | cons r rs ih =>
    rw [scatter, ih fun s hs => h s (List.mem_cons_of_mem _ hs)]
    exact write_apply_of_not_contains (List.length_take_le _ _) (h r (List.mem_cons_self ..))

/-- A gather depends on the cells of its regions only. -/
theorem gather_congr (h : ∀ r ∈ rs, ∀ x, r.Contains x → m x = m' x) :
    gather m rs n = gather m' rs n := by
  induction rs generalizing n with
  | nil => rfl
  | cons r rs ih =>
    rw [gather, gather, ih fun s hs => h s (List.mem_cons_of_mem _ hs)]
    congr 1
    refine read_congr fun x h₁ h₂ => h r (List.mem_cons_self ..) x ⟨h₁, ?_⟩
    omega

/-- A gather does not see a scatter into regions disjoint from its own. -/
theorem gather_scatter_of_disjoint {ss : List Region} (h : ∀ r ∈ rs, ∀ s ∈ ss, r.Disjoint s) :
    gather (scatter m ss bs) rs n = gather m rs n :=
  gather_congr fun r hr _ hx => scatter_apply_of_not_mem fun s hs => (h r hr s hs).not_contains hx

/-- **Vectored round trip.** A gather from pairwise disjoint regions finds what a scatter put
there. -/
theorem gather_scatter (hdis : rs.Pairwise Region.Disjoint) (hcap : bs.length ≤ capacity rs) :
    gather (scatter m rs bs) rs bs.length = bs := by
  induction rs generalizing m bs with
  | nil =>
    have : bs = [] := List.length_eq_zero_iff.mp (Nat.le_zero.mp hcap)
    simp [gather, this]
  | cons r rs ih =>
    rw [List.pairwise_cons] at hdis
    simp only [capacity, List.map_cons, List.sum_cons] at hcap
    have hfirst : read (scatter m (r :: rs) bs) r.addr (min r.len bs.length) = bs.take r.len := by
      rw [← List.length_take, ← read_write m r.addr (bs.take r.len)]
      simp only [length_read, scatter]
      refine read_congr fun x h₁ h₂ => scatter_apply_of_not_mem fun s hs => ?_
      refine (hdis.1 s hs).not_contains ⟨h₁, lt_of_lt_of_le h₂ ?_⟩
      simp
    have hrest : gather (scatter m (r :: rs) bs) rs (bs.length - r.len) = bs.drop r.len := by
      rw [← List.length_drop]
      exact ih hdis.2 (by rw [List.length_drop]; unfold capacity; omega)
    rw [gather, hfirst, hrest, List.take_append_drop]

/-- The front of a read is a shorter read. -/
theorem take_read (k : ℕ) : (read m a n).take k = read m a (min n k) := by
  induction n generalizing a k with
  | zero => simp [read]
  | succ n ih =>
    cases k with
    | zero => simp [read]
    | succ k => rw [read, List.take_succ_cons, ih, Nat.add_min_add_right, read]

/-- A gather is the front of the concatenation of the regions. -/
theorem gather_eq_take :
    gather m rs n = (rs.flatMap fun r => read m r.addr r.len).take n := by
  induction rs generalizing n with
  | nil => simp [gather]
  | cons r rs ih =>
    rw [gather, List.flatMap_cons, List.take_append, take_read, length_read, ih]

/-- A gather within the capacity finds as many cells as it asks for. -/
theorem length_gather (h : n ≤ capacity rs) : (gather m rs n).length = n := by
  induction rs generalizing n with
  | nil => simpa [gather, capacity, eq_comm] using h
  | cons r rs ih =>
    simp only [capacity, List.map_cons, List.sum_cons] at h
    rw [gather, List.length_append, length_read, ih (by unfold capacity; omega)]
    omega

/-- A gather from one region is a read. -/
theorem gather_singleton {r : Region} (h : n ≤ r.len) : gather m [r] n = read m r.addr n := by
  simp [gather, Nat.min_eq_right h]

end Memory
