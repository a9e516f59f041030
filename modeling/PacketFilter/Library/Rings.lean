import PacketFilter.Library.Bytes

/-! Blocks one behind the other in a ring of bytes. -/

namespace PacketFilter.Library.Rings

open Bytes

/-- The bytes of the ring as seen from any position, however often the ring was gone round. -/
def view (size : ℕ) (b : Memory) : Memory := fun i => b (i % size)

def put (size p : ℕ) (bs : List (BitVec 8)) (b : Memory) : Memory :=
  fun i => bs.getD ((i + size - p % size) % size) (b i)

section Put

variable {size p q : ℕ} {bs cs : List (BitVec 8)} {b : Memory}

lemma view_add_size (size : ℕ) (b : Memory) (i : ℕ) : view size b (i + size) = view size b i := by
  rw [view, view, Nat.add_mod_right]

lemma view_put {k : ℕ} (hk : k < size) :
    view size (put size p bs b) (p + k) = bs.getD k (view size b (p + k)) := by
  have hoffset : ((p + k) % size + size - p % size) % size = k := by
    have hp : p % size < size := Nat.mod_lt _ (by omega)
    rw [Nat.add_mod, Nat.mod_eq_of_lt hk]
    rcases Nat.lt_or_ge (p % size + k) size with hlt | hge
    · rw [Nat.mod_eq_of_lt hlt, show p % size + k + size - p % size = k + size by omega, Nat.add_mod_right,
        Nat.mod_eq_of_lt hk]
    · have hlt : p % size + k - size < size := by omega
      rw [Nat.mod_eq_sub_mod hge, Nat.mod_eq_of_lt hlt,
        show p % size + k - size + size - p % size = k by omega, Nat.mod_eq_of_lt hk]
  rw [view, put, hoffset, view]

lemma holds_put (h : bs.length ≤ size) : Holds (view size (put size p bs b)) p bs := by
  intro i hi
  rw [view_put (by omega), List.getD_eq_getElem?_getD, List.getElem?_eq_getElem hi, Option.getD_some]

lemma view_put_outside {k : ℕ} (hk : k < size) (hout : bs.length ≤ k) :
    view size (put size p bs b) (p + k) = view size b (p + k) := by
  rw [view_put hk, List.getD_eq_getElem?_getD, List.getElem?_eq_none hout, Option.getD_none]

lemma holds_put_behind (h : Holds (view size b) q cs) (hpq : p + bs.length ≤ q) (hw : q + cs.length ≤ p + size) :
    Holds (view size (put size p bs b)) q cs := by
  intro i hi
  have hi' : q + i = p + (q - p + i) := by omega
  rw [← h i hi, hi', view_put_outside (by omega) (by omega)]

lemma holds_put_ahead (h : Holds (view size b) q cs) (hqp : q + cs.length ≤ p) (hw : p + bs.length ≤ q + size) :
    Holds (view size (put size p bs b)) q cs := by
  intro i hi
  have hi' : q + i + size = p + (q + i + size - p) := by omega
  rw [← h i hi, ← view_add_size, hi', view_put_outside (by omega) (by omega), ← hi', view_add_size]

lemma holds_splice {xs ys zs : List (BitVec 8)} (h : Holds (view size b) p (xs ++ (ys ++ zs)))
    (hbs : bs.length = ys.length) (hsize : (xs ++ (ys ++ zs)).length ≤ size) :
    Holds (view size (put size (p + xs.length) bs b)) p (xs ++ (bs ++ zs)) := by
  simp only [List.length_append] at hsize
  have hx : Holds (view size (put size (p + xs.length) bs b)) p xs := holds_put_ahead h.left le_rfl (by omega)
  have hz : Holds (view size (put size (p + xs.length) bs b)) (p + xs.length + ys.length) zs :=
    holds_put_behind h.right.right (by omega) (by omega)
  have hb : Holds (view size (put size (p + xs.length) bs b)) (p + xs.length) bs := holds_put (by omega)
  rw [← hbs] at hz
  exact hx.append (hb.append hz)

end Put

structure Block where
  bytes : List (BitVec 8)
  width : ℕ
  fits : bytes.length ≤ width

def extent (blocks : List Block) : ℕ := (blocks.map Block.width).sum

@[simp] lemma extent_nil : extent [] = 0 := rfl

@[simp] lemma extent_cons (block : Block) (blocks : List Block) :
    extent (block :: blocks) = block.width + extent blocks := by
  simp [extent]

@[simp] lemma extent_append (xs ys : List Block) : extent (xs ++ ys) = extent xs + extent ys := by
  simp [extent]

def Laid (v : Memory) : ℕ → List Block → Prop
  | _, [] => True
  | p, block :: blocks => Holds v p block.bytes ∧ Laid v (p + block.width) blocks

lemma laid_append {v : Memory} {p : ℕ} {xs ys : List Block} :
    Laid v p (xs ++ ys) ↔ Laid v p xs ∧ Laid v (p + extent xs) ys := by
  induction xs generalizing p with
  | nil => simp [Laid]
  | cons x xs ih => simp [Laid, ih, and_assoc, Nat.add_assoc]

section Laid

variable {size p q : ℕ} {bs : List (BitVec 8)} {b : Memory} {blocks : List Block}

lemma Laid.put_behind (h : Laid (view size b) q blocks) (hpq : p + bs.length ≤ q)
    (hw : q + extent blocks ≤ p + size) : Laid (view size (put size p bs b)) q blocks := by
  induction blocks generalizing q with
  | nil => trivial
  | cons block blocks ih =>
    have hfits := block.fits
    rw [extent_cons] at hw
    exact ⟨holds_put_behind h.1 hpq (by omega), ih h.2 (by omega) (by omega)⟩

lemma Laid.put_ahead (h : Laid (view size b) q blocks) (hqp : q + extent blocks ≤ p)
    (hw : p + bs.length ≤ q + size) : Laid (view size (put size p bs b)) q blocks := by
  induction blocks generalizing q with
  | nil => trivial
  | cons block blocks ih =>
    have hfits := block.fits
    rw [extent_cons] at hqp
    exact ⟨holds_put_ahead h.1 (by omega) hw, ih h.2 (by omega) (by omega)⟩

lemma Laid.put_inside {xs ys : List Block} {block block' : Block} {k : ℕ}
    (h : Laid (view size b) q (xs ++ block :: ys)) (hsize : extent (xs ++ block :: ys) ≤ size)
    (hk : k + bs.length ≤ block.width) (hwidth : block'.width = block.width)
    (hblock : Holds (view size (put size (q + extent xs + k) bs b)) (q + extent xs) block'.bytes) :
    Laid (view size (put size (q + extent xs + k) bs b)) q (xs ++ block' :: ys) := by
  obtain ⟨hxs, -, hys⟩ := laid_append.mp h
  rw [extent_append, extent_cons] at hsize
  refine laid_append.mpr ⟨hxs.put_ahead (by omega) (by omega), hblock, ?_⟩
  rw [hwidth]
  exact hys.put_behind (by omega) (by omega)

lemma Laid.put_last {block : Block} (h : Laid (view size b) q blocks)
    (hsize : extent (blocks ++ [block]) ≤ size) (hbs : bs.length ≤ block.width)
    (hblock : Holds (view size (put size (q + extent blocks) bs b)) (q + extent blocks) block.bytes) :
    Laid (view size (put size (q + extent blocks) bs b)) q (blocks ++ [block]) := by
  rw [extent_append, extent_cons] at hsize
  exact laid_append.mpr ⟨h.put_ahead le_rfl (by omega), hblock, trivial⟩

end Laid

end PacketFilter.Library.Rings
