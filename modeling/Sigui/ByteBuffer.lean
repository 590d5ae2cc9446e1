import Mathlib.Data.List.GetD

/-! The memory behind a pointer, and a buffer that is filled from its start. -/
namespace Sigui.Bytes

abbrev Memory := Nat → UInt8

def read (memory : Memory) (n : Nat) : List UInt8 := (List.range n).map memory

/-- The pointer `&data[index]`. -/
def pointer (data : List UInt8) (index : Nat) : Memory := fun i => data.getD (index + i) 0

/-- `memcpy(&dest[index], bytes, n)` -/
def write (dest : List UInt8) (index : Nat) (bytes : List UInt8) : List UInt8 :=
  dest.take index ++ bytes ++ dest.drop (index + bytes.length)

@[simp] theorem length_read (memory : Memory) (n : Nat) : (read memory n).length = n := by
  simp [read]

theorem read_pointer {data : List UInt8} {index n : Nat} (h : index + n ≤ data.length) :
    read (pointer data index) n = (data.drop index).take n := by
  apply List.ext_getElem
  · simp only [length_read, List.length_take, List.length_drop]
    omega
  · intro i hi hi'
    have hin : i < n := by simpa using hi
    have hlt : index + i < data.length := by omega
    simp only [read, pointer, List.getElem_map, List.getElem_range, List.getElem_take,
      List.getElem_drop]
    exact List.getD_eq_getElem data 0 hlt

theorem length_write {dest bytes : List UInt8} {index : Nat}
    (h : index + bytes.length ≤ dest.length) : (write dest index bytes).length = dest.length := by
  simp only [write, List.length_append, List.length_take, List.length_drop]
  omega

theorem write_write (dest a b : List UInt8) :
    write (write dest 0 a) a.length b = write dest 0 (a ++ b) := by
  have hdrop : (a ++ dest.drop a.length).drop (a.length + b.length) =
      dest.drop (a.length + b.length) := by
    rw [← List.drop_drop, List.drop_left, List.drop_drop]
  simp only [write, List.take_zero, List.nil_append, Nat.zero_add, List.length_append, hdrop,
    List.take_left]

theorem write_write_at {dest a : List UInt8} (b : List UInt8) {index : Nat}
    (h : index + a.length ≤ dest.length) :
    write (write dest index a) (index + a.length) b = write dest index (a ++ b) := by
  have hfront : (dest.take index ++ a).length = index + a.length := by
    rw [List.length_append, List.length_take]
    omega
  have hdrop : (dest.take index ++ a ++ dest.drop (index + a.length)).drop
      (index + a.length + b.length) = dest.drop (index + (a.length + b.length)) := by
    rw [← List.drop_drop, List.drop_left' hfront, List.drop_drop, Nat.add_assoc]
  unfold write
  rw [List.take_left' hfront, hdrop, List.length_append, List.append_assoc, List.append_assoc,
    List.append_assoc, List.append_assoc]

theorem take_write (dest bytes : List UInt8) : (write dest 0 bytes).take bytes.length = bytes := by
  simp only [write, List.take_zero, List.nil_append, List.take_left]

theorem take_writes (dest a b d : List UInt8) :
    (write (write (write dest 0 a) a.length b) (a.length + b.length) d).take
      (a.length + b.length + d.length) = a ++ b ++ d := by
  rw [write_write, ← List.length_append, write_write, ← List.length_append, take_write]

end Sigui.Bytes
