import Mathlib.Data.List.Basic
import Mathlib.Logic.Function.Basic

/-!
Files that are written byte by byte, and writing that is cut short.

Opening a file to write it empties it, so that a file whose writing is cut short holds a
beginning of what was to be written.
-/

namespace Vero.Lib

/-- What the files hold, or nothing where there is none. -/
abbrev Files (P B : Type) := P → Option (List B)

inductive FileOp (P B : Type)
  | truncate (fp : P)
  | append (fp : P) (b : B)

namespace FileOp

variable {P B : Type} [DecidableEq P]

def apply (files : Files P B) : FileOp P B → Files P B
  | truncate fp => Function.update files fp (some [])
  | append fp b => Function.update files fp ((files fp).map (· ++ [b]))

/-- The files where only the first `n` operations are made. -/
def interrupted (ops : List (FileOp P B)) (n : ℕ) (files : Files P B) : Files P B :=
  (ops.take n).foldl apply files

def save (bytes : List B) (fp : P) : List (FileOp P B) := truncate fp :: bytes.map (append fp)

variable {ops ops' : List (FileOp P B)} {files : Files P B} {bytes done : List B} {fp fp' : P}
variable {n : ℕ}

@[simp] lemma apply_truncate : apply files (truncate fp) = Function.update files fp (some []) := rfl

@[simp] lemma apply_append {b : B} : apply files (append fp b) =
    Function.update files fp ((files fp).map (· ++ [b])) := rfl

omit [DecidableEq P] in
@[simp] lemma length_save : (save bytes fp).length = bytes.length + 1 := by
  simp [save]

@[simp] lemma interrupted_zero : interrupted ops 0 files = files := rfl

/-- The second operations start where the first are done. -/
lemma interrupted_append : interrupted (ops ++ ops') n files =
    interrupted ops' (n - ops.length) (interrupted ops n files) := by
  unfold interrupted
  rw [List.take_append, List.foldl_append]

lemma foldl_append_eq (h : files fp = some done) :
    (bytes.map (append fp)).foldl apply files =
      Function.update files fp (some (done ++ bytes)) := by
  induction bytes generalizing files done with
  | nil =>
    rw [List.append_nil, ← h, Function.update_eq_self]
    rfl
  | cons b bytes ih =>
    have hone : apply files (append fp b) = Function.update files fp (some (done ++ [b])) := by
      rw [apply_append, h]
      rfl
    rw [List.map_cons, List.foldl_cons, hone, ih (Function.update_self _ _ _),
      Function.update_idem, List.append_assoc, List.singleton_append]

/-- **What is left of a file.** Once it is open, a file holds the bytes written so far. -/
lemma interrupted_save : interrupted (save bytes fp) (n + 1) files =
    Function.update files fp (some (bytes.take n)) := by
  unfold interrupted save
  rw [List.take_succ_cons, List.foldl_cons, ← List.map_take, apply_truncate,
    foldl_append_eq (Function.update_self _ _ _)]
  exact Function.update_idem _ _ _

lemma interrupted_save_of_ne (h : fp' ≠ fp) : interrupted (save bytes fp) n files fp' =
    files fp' := by
  cases n with
  | zero => rfl
  | succ n => rw [interrupted_save, Function.update_of_ne h]

end FileOp

end Vero.Lib
