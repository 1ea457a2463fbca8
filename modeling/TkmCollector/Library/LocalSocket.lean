import Mathlib.Data.List.TakeWhile
import Mathlib.Logic.Function.Basic

namespace LocalSocket

abbrev Bytes := List UInt8

/-- `c_str` as a system call reads it. -/
def cString (s : Bytes) : Bytes := s.takeWhile (· ≠ 0)

/-- `path::operator/=`. -/
def appendPath (dir name : Bytes) : Bytes :=
  if name.head? = some 47 then name
  else if dir = [] ∨ dir.getLast? = some 47 then dir ++ name
  else dir ++ 47 :: name

/-- `strncpy`: at most `n` bytes, and zeros for the rest of them. -/
def strncpy (src : Bytes) (n : Nat) : Bytes :=
  let s := (cString src).take n
  s ++ List.replicate (n - s.length) 0

def sunPathSize : Nat := 108

/-- `sun_path` of an address that was all zeros. -/
def sunPath (path : Bytes) : Bytes := strncpy path (sunPathSize - 1) ++ [0]

/-- What an address names: a path, or a name outside of the file system. -/
inductive Address where
  | path (path : Bytes)
  | abstract (name : Bytes)
  deriving DecidableEq

def addressOf : Bytes → Address
  | [] => .abstract []
  | 0 :: name => .abstract name
  | sun => .path (cString sun)

lemma mem_cString_ne_zero {s : Bytes} {c : UInt8} (h : c ∈ cString s) : c ≠ 0 := by
  have h := List.mem_takeWhile_imp h
  simpa using h

lemma cString_append {s : Bytes} (hs : ∀ c ∈ s, c ≠ 0) (rest : Bytes) :
    cString (s ++ 0 :: rest) = s := by
  have hpos : ∀ c ∈ s, decide (c ≠ 0) = true := fun c hc => decide_eq_true (hs c hc)
  rw [cString, List.takeWhile_append_of_pos hpos, List.takeWhile_cons_of_neg (by simp),
    List.append_nil]

/-- The address of a path: cut off behind its first 107 bytes, and no path at all when there is
nothing before the first NUL. -/
theorem addressOf_sunPath (path : Bytes) :
    addressOf (sunPath path) =
      if cString path = [] then .abstract (List.replicate 107 0)
      else .path ((cString path).take 107) := by
  have hsize : sunPathSize - 1 = 107 := rfl
  cases hc : cString path with
  | nil => simp [sunPath, strncpy, hc, addressOf, sunPathSize, List.replicate_succ]
  | cons c rest =>
    have hne : ∀ d ∈ (cString path).take 107, d ≠ 0 := fun d hd =>
      mem_cString_ne_zero (List.mem_of_mem_take hd)
    have hc0 : c ≠ 0 := mem_cString_ne_zero (by rw [hc]; exact List.mem_cons_self ..)
    have hsun : sunPath path = (cString path).take 107 ++
        0 :: List.replicate (107 - ((cString path).take 107).length) 0 := by
      rw [sunPath, strncpy, hsize, List.append_assoc, ← List.replicate_succ', List.replicate_succ]
    have haddress : addressOf (sunPath path) = .path (cString (sunPath path)) := by
      rw [hsun, hc, List.take_succ_cons, List.cons_append]
      unfold addressOf
      split
      · rename_i h
        cases h
      · rename_i h
        exact absurd (List.cons.inj h).1 hc0
      · rfl
    rw [haddress, hsun, cString_append hne, hc]
    simp

/-- An entry of the file system. A socket knows who bound it, and whether users other than that
one may connect to it. -/
inductive Entry where
  | socket (id : Nat) (shared : Bool)
  | file
  | directory (empty : Bool)
  deriving DecidableEq

/-- What the calls rest on and none of them changes: the paths at which an entry can be made, what
the mode of a new socket leaves to other users, and whether `listen` succeeds. -/
structure System where
  bindable : Bytes → Bool
  shared : Bool
  listens : Bool

/-- The files, the names in use outside of the file system, and the sockets that listen. -/
structure Host where
  files : Bytes → Option Entry
  no_empty_path : files [] = none
  names : Bytes → Option Nat
  listening : Nat → Bool

namespace Host

variable (sys : System) (h : Host)

/-- `std::filesystem::exists`. -/
def pathExists (path : Bytes) : Bool := (h.files (cString path)).isSome

def setFile (path : Bytes) (entry : Option Entry) : Host :=
  if hpath : path = [] then h
  else { h with
    files := Function.update h.files path entry
    no_empty_path := by rw [Function.update_of_ne (Ne.symm hpath), h.no_empty_path] }

/-- `std::filesystem::remove`: whether there was something to remove. It throws for a directory
that is not empty. -/
def remove (path : Bytes) : Option (Bool × Host) :=
  match h.files (cString path) with
  | none => some (false, h)
  | some (.directory false) => none
  | some _ => some (true, h.setFile (cString path) none)

/-- `bind` fails on a path that exists, and on a name that is in use. -/
def bind (id : Nat) (sun : Bytes) : Option Host :=
  match addressOf sun with
  | .path path =>
    if (h.files path).isSome || !sys.bindable path then none
    else some (h.setFile path (some (.socket id sys.shared)))
  | .abstract name =>
    if (h.names name).isSome then none
    else some { h with names := Function.update h.names name (some id) }

/-- `chmod` with a mode that lets everyone connect. Its result is not read. -/
def chmod (path : Bytes) : Host :=
  match h.files (cString path) with
  | some (.socket id _) => h.setFile (cString path) (some (.socket id true))
  | _ => h

def listen (id : Nat) : Option Host :=
  if sys.listens then some { h with listening := Function.update h.listening id true } else none

/-- The socket that `connect` reaches, for the user who bound it or for another. -/
def connect (owner : Bool) (sun : Bytes) : Option Nat :=
  match addressOf sun with
  | .path path =>
    match h.files path with
    | some (.socket id shared) => if h.listening id && (owner || shared) then some id else none
    | _ => none
  | .abstract name => (h.names name).filter h.listening

/-- The process of a socket ends without cleaning up: its entry stays. -/
def kill (id : Nat) : Host :=
  { h with
    names := fun name => (h.names name).filter (· ≠ id)
    listening := Function.update h.listening id false }

lemma files_setFile {path : Bytes} (hpath : path ≠ []) (entry : Option Entry) :
    (h.setFile path entry).files = Function.update h.files path entry := by
  rw [setFile, dif_neg hpath]

@[simp] lemma kill_files (id : Nat) : (h.kill id).files = h.files := rfl

@[simp] lemma kill_listening (id : Nat) :
    (h.kill id).listening = Function.update h.listening id false := rfl

lemma chmod_files_none {path : Bytes} (hpath : h.files (cString path) = none) : h.chmod path = h := by
  rw [chmod, hpath]

lemma remove_files {path : Bytes} {removed : Bool} {h' : Host}
    (hremove : h.remove path = some (removed, h')) : h'.files (cString path) = none := by
  by_cases hempty : cString path = []
  · rw [hempty]
    exact h'.no_empty_path
  · unfold remove at hremove
    split at hremove
    · rename_i hfile
      have heq := (Prod.mk.inj (Option.some.inj hremove)).2
      rw [← heq]
      exact hfile
    · cases hremove
    · have heq := (Prod.mk.inj (Option.some.inj hremove)).2
      rw [← heq, files_setFile h hempty, Function.update_self]

end Host

end LocalSocket
