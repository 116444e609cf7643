import Mathlib.Algebra.Group.Nat.Defs
import Mathlib.Data.Fin.Tuple.Basic
import Mathlib.Data.Nat.Init

/-!
# Bytes in memory

A `Block` is a piece of memory, and a `Field` of it a place in which some of its bytes
are kept.  `Block.get_set` and `Block.get_set_of_disjoint` are all there is to know about
reading what was written, in one field or through several that overlap in part.

A number is kept in the byte order of the machine, `Endian`.  Putting it into the byte
order of the network first, as `toBe` does, makes the bytes the same on every machine
(`neBytes_toBe`).
-/

namespace Memory

/-- `n` bytes. -/
abbrev Block (n : Nat) := Fin n → UInt8

/-- A place for `w` bytes in a block of `n`. -/
structure Field (n w : Nat) where
  offset : Nat
  le : offset + w ≤ n

namespace Field

variable {n w w' : Nat}

/-- The fields have no byte in common. -/
def Disjoint (f : Field n w) (g : Field n w') : Prop :=
  f.offset + w ≤ g.offset ∨ g.offset + w' ≤ f.offset

instance (f : Field n w) (g : Field n w') : Decidable (f.Disjoint g) :=
  inferInstanceAs (Decidable (_ ∨ _))

end Field

namespace Block

variable {m n w w' : Nat}

/-- Memory that was zeroed. -/
def zeroed (n : Nat) : Block n := fun _ ↦ 0

/-- The bytes of a field. -/
def get (b : Block n) (f : Field n w) : Block w :=
  fun i ↦ b ⟨f.offset + i, Nat.lt_of_lt_of_le (Nat.add_lt_add_left i.isLt _) f.le⟩

/-- The block after some bytes have been written into a field. -/
def set (b : Block n) (f : Field n w) (data : Block w) : Block n := fun i ↦
  if h : f.offset ≤ i ∧ i < f.offset + w then data ⟨i - f.offset, by omega⟩ else b i

/-- What was written is read back. -/
@[simp] theorem get_set (b : Block n) (f : Field n w) (data : Block w) :
    (b.set f data).get f = data := by
  funext i
  have hi : f.offset ≤ f.offset + i ∧ f.offset + i < f.offset + w := by omega
  rw [get, set]
  rw [dif_pos hi]
  congr 1
  exact Fin.ext (Nat.add_sub_cancel_left _ _)

/-- Writing into a field does nothing to the fields that have no byte in common with it. -/
theorem get_set_of_disjoint (b : Block n) {f : Field n w} {g : Field n w'} (h : f.Disjoint g)
    (data : Block w) : (b.set f data).get g = b.get g := by
  funext i
  rw [get, set, get]
  refine dif_neg ?_
  intro hi
  dsimp only at hi
  have := i.isLt
  rcases h with h | h <;> omega

/-- A field of a field is a field. -/
theorem get_get (b : Block n) {f : Field n w} {g : Field n w'} {g' : Field w w'}
    (h : g.offset = f.offset + g'.offset) : (b.get f).get g' = b.get g := by
  funext i
  refine congrArg b (Fin.ext ?_)
  show f.offset + (g'.offset + i) = g.offset + i
  rw [h, Nat.add_assoc]

/-- Reading a part of what was written. -/
theorem get_set_of_inside (b : Block n) {f : Field n w} {g : Field n w'} {g' : Field w w'}
    (h : g.offset = f.offset + g'.offset) (data : Block w) :
    (b.set f data).get g = data.get g' := by
  rw [← get_get _ h, get_set]

/-- Nothing is written outside of a field. -/
theorem set_apply_of_not_mem (b : Block n) (f : Field n w) (data : Block w) {i : Fin n}
    (h : ¬ (f.offset ≤ i ∧ i < f.offset + w)) : b.set f data i = b i := dif_neg h

/-- Writing what is there already changes nothing. -/
theorem set_of_get_eq {b : Block n} {f : Field n w} {data : Block w} (h : b.get f = data) :
    b.set f data = b := by
  subst h
  funext i
  by_cases hi : f.offset ≤ i ∧ i < f.offset + w
  · rw [set, dif_pos hi, get]
    exact congrArg b (Fin.ext (Nat.add_sub_cancel' hi.1))
  · exact set_apply_of_not_mem b f _ hi

/-- The last of two writes to a field is the one that counts. -/
theorem set_set (b : Block n) (f : Field n w) (data data' : Block w) :
    (b.set f data).set f data' = b.set f data' := by
  funext i
  by_cases hi : f.offset ≤ i ∧ i < f.offset + w
  · rw [set, dif_pos hi, set, dif_pos hi]
  · rw [set_apply_of_not_mem _ f _ hi, set_apply_of_not_mem _ f _ hi,
      set_apply_of_not_mem _ f _ hi]

/-- The first bytes of a list, and zeros if there are no more of them. -/
def ofList (w : Nat) (bytes : List UInt8) : Block w := fun i ↦ bytes.getD i 0

/-- A list that fills a block is the list of its bytes. -/
theorem ofFn_ofList {w : Nat} {bytes : List UInt8} (h : bytes.length = w) :
    List.ofFn (ofList w bytes) = bytes := by
  subst h
  refine List.ext_getElem (List.length_ofFn) fun i hi hi' ↦ ?_
  rw [List.getElem_ofFn, ofList, List.getD_eq_getElem?_getD, List.getElem?_eq_getElem hi']
  rfl

/-- Zeros at the end of a list are those that are there without them. -/
theorem ofList_append_replicate (w k : Nat) (bytes : List UInt8) :
    ofList w (bytes ++ List.replicate k 0) = ofList w bytes := by
  funext i
  rw [ofList, ofList, List.getD_eq_getElem?_getD, List.getD_eq_getElem?_getD]
  rcases Nat.lt_or_ge i.val bytes.length with hi | hi
  · rw [List.getElem?_append_left hi]
  · rw [List.getElem?_append_right hi, List.getElem?_eq_none hi, List.getElem?_replicate]
    split_ifs <;> rfl

/-- Copy the first `count` bytes of `src` to the place `dst` of a block, as
`ptr::copy_nonoverlapping` does; nothing, if that leaves one of the two blocks. -/
def copyNonoverlapping (src : Block m) (b : Block n) (dst count : Nat) : Option (Block n) :=
  if h : 0 + count ≤ m ∧ dst + count ≤ n then
    some (b.set ⟨dst, h.2⟩ (src.get ⟨0, h.1⟩))
  else
    none

/-- A copy within both blocks writes one field. -/
theorem copyNonoverlapping_eq (src : Block m) (b : Block n) {dst count : Nat}
    (hsrc : 0 + count ≤ m) (hdst : dst + count ≤ n) :
    copyNonoverlapping src b dst count = some (b.set ⟨dst, hdst⟩ (src.get ⟨0, hsrc⟩)) :=
  dif_pos ⟨hsrc, hdst⟩

/-- A list that is copied to a zeroed field fills it up, if there is room for it. -/
theorem copyNonoverlapping_ofList {b : Block n} {f : Field n w} {bytes : List UInt8}
    (hzero : b.get f = zeroed w) (hle : bytes.length ≤ w) :
    copyNonoverlapping (ofList bytes.length bytes) b f.offset bytes.length =
      some (b.set f (ofList w bytes)) := by
  have hsrc : 0 + bytes.length ≤ bytes.length := (Nat.zero_add _).le
  have hdst : f.offset + bytes.length ≤ n := (Nat.add_le_add_left hle _).trans f.le
  rw [copyNonoverlapping_eq _ _ hsrc hdst, Option.some.injEq]
  funext i
  by_cases hi : f.offset ≤ i ∧ i < f.offset + bytes.length
  · have hi' : f.offset ≤ i ∧ i < f.offset + w := by omega
    rw [set, dif_pos hi, set, dif_pos hi', get, ofList, ofList]
    exact congrArg (bytes.getD · 0) (Nat.zero_add _)
  · rw [set_apply_of_not_mem _ _ _ hi]
    by_cases hi' : f.offset ≤ i ∧ i < f.offset + w
    · -- behind the end of the list there are zeros before and after
      have hbehind : bytes.length ≤ i - f.offset := by omega
      have hthere := congrFun hzero ⟨i - f.offset, by omega⟩
      have hindex : f.offset + (i - f.offset) = i := Nat.add_sub_cancel' hi'.1
      rw [get] at hthere
      simp only [hindex, zeroed] at hthere
      rw [set, dif_pos hi', ofList, List.getD_eq_getElem?_getD, List.getElem?_eq_none hbehind]
      exact hthere
    · rw [set_apply_of_not_mem _ _ _ hi']

end Block

/-! ## Numbers -/

/-- The `w` lowest bytes of a number, lowest first. -/
def leBytes (w n : Nat) : Block w := fun i ↦ UInt8.ofNat (n / 256 ^ i.val)

/-- The number whose bytes, lowest first, are given. -/
def ofLeBytes : {w : Nat} → Block w → Nat
  | 0, _ => 0
  | _ + 1, b => (b 0).toNat + 256 * ofLeBytes fun i ↦ b i.succ

theorem ofLeBytes_succ {w : Nat} (b : Block (w + 1)) :
    ofLeBytes b = (b 0).toNat + 256 * ofLeBytes (fun i ↦ b i.succ) := rfl

theorem leBytes_succ (w n : Nat) (i : Fin w) :
    leBytes (w + 1) n i.succ = leBytes w (n / 256) i := by
  rw [leBytes, leBytes, Fin.val_succ, Nat.pow_succ', Nat.div_div_eq_div_mul]

/-- Bytes are the bytes of their number. -/
theorem leBytes_ofLeBytes {w : Nat} (b : Block w) : leBytes w (ofLeBytes b) = b := by
  induction w with
  | zero => exact funext fun i ↦ i.elim0
  | succ w ih =>
      have hlt : (b 0).toNat < 256 := (b 0).toNat_lt
      funext i
      cases i using Fin.cases with
      | zero =>
          rw [leBytes, ofLeBytes_succ, Fin.val_zero, Nat.pow_zero, Nat.div_one]
          apply UInt8.toNat.inj
          rw [UInt8.toNat_ofNat']
          omega
      | succ i =>
          have hdiv : ofLeBytes b / 256 = ofLeBytes fun i ↦ b i.succ := by
            rw [ofLeBytes_succ]
            omega
          rw [leBytes_succ, hdiv, ih]

theorem ofLeBytes_lt {w : Nat} (b : Block w) : ofLeBytes b < 256 ^ w := by
  induction w with
  | zero => exact Nat.one_pos
  | succ w ih =>
      have hlt : (b 0).toNat < 256 := (b 0).toNat_lt
      have := ih fun i ↦ b i.succ
      rw [ofLeBytes_succ, Nat.pow_succ]
      omega

/-- A number that fits is the number of its bytes. -/
theorem ofLeBytes_leBytes {w n : Nat} (h : n < 256 ^ w) : ofLeBytes (leBytes w n) = n := by
  induction w generalizing n with
  | zero =>
      rw [Nat.pow_zero, Nat.lt_one_iff] at h
      exact h.symm
  | succ w ih =>
      have hrest : ofLeBytes (fun i : Fin w ↦ leBytes (w + 1) n i.succ) = n / 256 := by
        rw [funext (leBytes_succ w n), ih]
        rw [Nat.pow_succ] at h
        omega
      have hfirst : (leBytes (w + 1) n 0).toNat = n % 256 := by
        rw [leBytes, Fin.val_zero, Nat.pow_zero, Nat.div_one, UInt8.toNat_ofNat']
      rw [ofLeBytes_succ, hrest, hfirst]
      exact Nat.mod_add_div n 256

/-! ## Byte orders -/

/-- The byte order of a machine. -/
inductive Endian where
  | little
  | big
deriving DecidableEq, Repr

variable {w n : Nat} (e : Endian)

/-- The `w` lowest bytes of a number, highest first. -/
def beBytes (w n : Nat) : Block w := fun i ↦ leBytes w n i.rev

/-- The number whose bytes, highest first, are given. -/
def ofBeBytes (b : Block w) : Nat := ofLeBytes fun i ↦ b i.rev

/-- The bytes of a number in the order of the machine: what is in memory after a store. -/
def neBytes (w n : Nat) : Block w :=
  match e with
  | .little => leBytes w n
  | .big => beBytes w n

/-- The number of some bytes in the order of the machine: the value of a load. -/
def ofNeBytes (b : Block w) : Nat :=
  match e with
  | .little => ofLeBytes b
  | .big => ofBeBytes b

/-- A number with its `w` bytes in the order of the network: `to_be`, and `from_be` as well. -/
def toBe (w n : Nat) : Nat :=
  match e with
  | .little => ofBeBytes (leBytes w n)
  | .big => n

theorem beBytes_ofBeBytes (b : Block w) : beBytes w (ofBeBytes b) = b := by
  funext i
  rw [beBytes, ofBeBytes, leBytes_ofLeBytes, Fin.rev_rev]

theorem ofBeBytes_beBytes (h : n < 256 ^ w) : ofBeBytes (beBytes w n) = n := by
  have hrev : (fun i : Fin w ↦ beBytes w n i.rev) = leBytes w n := by
    funext i
    rw [beBytes, Fin.rev_rev]
  rw [ofBeBytes, hrev, ofLeBytes_leBytes h]

theorem ofBeBytes_lt (b : Block w) : ofBeBytes b < 256 ^ w := ofLeBytes_lt _

/-- All bytes of zero are zero. -/
theorem neBytes_zero (w : Nat) : neBytes e w 0 = .zeroed w := by
  have hle : leBytes w 0 = .zeroed w := by
    funext i
    rw [leBytes, Nat.zero_div]
    rfl
  cases e with
  | little => exact hle
  | big =>
      funext i
      rw [neBytes, beBytes, hle]
      rfl

/-- What is loaded and stored again is unchanged. -/
theorem neBytes_ofNeBytes (b : Block w) : neBytes e w (ofNeBytes e b) = b := by
  cases e with
  | little => exact leBytes_ofLeBytes b
  | big => exact beBytes_ofBeBytes b

/-- What is stored is loaded again. -/
theorem ofNeBytes_neBytes (h : n < 256 ^ w) : ofNeBytes e (neBytes e w n) = n := by
  cases e with
  | little => exact ofLeBytes_leBytes h
  | big => exact ofBeBytes_beBytes h

/-- A number that is put into the order of the network has the same bytes on every
machine. -/
theorem neBytes_toBe (w n : Nat) : neBytes e w (toBe e w n) = beBytes w n := by
  cases e with
  | little => exact leBytes_ofLeBytes fun i ↦ leBytes w n i.rev
  | big => rfl

/-- A number that is read from the order of the network is the same on every machine. -/
theorem toBe_ofNeBytes (b : Block w) : toBe e w (ofNeBytes e b) = ofBeBytes b := by
  cases e with
  | little =>
      change ofBeBytes (leBytes w (ofLeBytes b)) = ofBeBytes b
      rw [leBytes_ofLeBytes]
  | big => rfl

end Memory
