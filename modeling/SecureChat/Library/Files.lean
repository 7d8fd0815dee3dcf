import Mathlib.Data.List.Basic
import Mathlib.Tactic.Common
import Mathlib.Logic.Function.Basic

namespace SecureChat.Library

/-- A component of a path. -/
abbrev PathName := List UInt8

def slash : UInt8 := 0x2F

def dot : PathName := [0x2E]

def dotDot : PathName := [0x2E, 0x2E]

/-- One component leads from a directory, which is given by the names from the root on, to another one. -/
def walk (directory : List PathName) (name : PathName) : List PathName :=
  if name = [] ∨ name = dot then directory
  else if name = dotDot then directory.dropLast
  else directory ++ [name]

/-- Where a path leads from a directory, without regard to links. -/
def resolve (directory : List PathName) (path : List UInt8) : List PathName :=
  (path.splitOn slash).foldl walk (if path.head? = some slash then [] else directory)

/-- A path that climbs first and then goes down. -/
structure Route where
  ups : Nat
  downs : List PathName
  deriving DecidableEq, Repr

namespace Route

/-- Each `..` takes the name in front of it away. -/
def step (route : Route) (name : PathName) : Route :=
  if name = [] ∨ name = dot then route
  else if name = dotDot then
    if route.downs = [] then { route with ups := route.ups + 1 } else { route with downs := route.downs.dropLast }
  else { route with downs := route.downs ++ [name] }

/-- A path in its shortest form. -/
def of (path : List UInt8) : Route := (path.splitOn slash).foldl step ⟨0, []⟩

def goFrom (route : Route) (directory : List PathName) : List PathName :=
  directory.take (directory.length - route.ups) ++ route.downs

/-- The names that a route climbs over are the first ones that it goes down again. -/
def ComesBack (route : Route) (directory : List PathName) : Prop :=
  directory.drop (directory.length - route.ups) <+: route.downs

instance (route : Route) (directory : List PathName) : Decidable (route.ComesBack directory) :=
  inferInstanceAs (Decidable (_ <+: _))

theorem walk_goFrom (route : Route) (directory : List PathName) (name : PathName) :
    walk (route.goFrom directory) name = (route.step name).goFrom directory := by
  unfold walk step goFrom
  split
  · rfl
  · split
    · split
      · rename_i stay
        rw [stay, List.append_nil, List.append_nil, List.dropLast_eq_take, List.length_take, List.take_take]
        congr 1
        dsimp only
        omega
      · rename_i further
        exact List.dropLast_append_of_ne_nil further
    · exact List.append_assoc ..

theorem foldl_walk (names : List PathName) (route : Route) (directory : List PathName) :
    names.foldl walk (route.goFrom directory) = (names.foldl step route).goFrom directory := by
  induction names generalizing route with
  | nil => rfl
  | cons name rest ih => rw [List.foldl_cons, List.foldl_cons, walk_goFrom, ih]

theorem goFrom_start (directory : List PathName) : (Route.mk 0 []).goFrom directory = directory := by
  rw [goFrom, Nat.sub_zero, List.take_length, List.append_nil]

/-- A path leads where its shortest form leads. -/
theorem foldl_walk_eq (path : List UInt8) (directory : List PathName) :
    (path.splitOn slash).foldl walk directory = (Route.of path).goFrom directory := by
  conv_lhs => rw [← goFrom_start directory]
  exact foldl_walk _ _ _

/-- A route stays inside of a directory exactly when it comes back as far as it climbs. -/
theorem inside_iff (route : Route) (directory : List PathName) :
    directory <+: route.goFrom directory ↔ route.ComesBack directory := by
  unfold goFrom ComesBack
  conv_lhs => lhs; rw [← List.take_append_drop (directory.length - route.ups) directory]
  exact List.prefix_append_right_inj _

end Route

/-- A name that means a file or a directory of that name. -/
structure PlainName (name : PathName) : Prop where
  whole : slash ∉ name
  nonempty : name ≠ []
  noDot : name ≠ dot
  noDotDot : name ≠ dotDot

theorem PlainName.walk {name : PathName} (plain : PlainName name) (directory : List PathName) :
    walk directory name = directory ++ [name] := by
  unfold Library.walk
  rw [if_neg (not_or.mpr ⟨plain.nonempty, plain.noDot⟩), if_neg plain.noDotDot]

/-- A path that begins with names goes on from the directory that they lead to. -/
theorem foldl_walk_names {name : PathName} (plain : PlainName name) (directory : List PathName) (rest : List UInt8) :
    ((name ++ slash :: rest).splitOn slash).foldl walk directory =
      (rest.splitOn slash).foldl walk (directory ++ [name]) := by
  rw [List.splitOn_append_cons_self_of_not_mem plain.whole, List.foldl_cons, plain.walk]

/-- Where a path leads that begins with a name. -/
theorem resolve_name {name : PathName} (plain : PlainName name) (directory : List PathName) (rest : List UInt8) :
    resolve directory (name ++ slash :: rest) = (rest.splitOn slash).foldl walk (directory ++ [name]) := by
  have relative : (name ++ slash :: rest).head? ≠ some slash := by
    rw [List.head?_append_of_ne_nil _ plain.nonempty]
    exact fun first => plain.whole (List.mem_of_head? first)
  rw [resolve, if_neg relative, foldl_walk_names plain]

variable {Name Content : Type*} [DecidableEq Name]

/-- The files of a system by their names. A name that is missing is left alone, and a target is replaced. -/
def rename (files : Name → Option Content) (source target : Name) : Name → Option Content :=
  match files source with
  | none => files
  | some content => Function.update (Function.update files source none) target (some content)

/-- Each of several numbered files moves up by one number, the last one first. -/
def renameUp (name : Nat → Name) : Nat → (Name → Option Content) → Name → Option Content
  | 0, files => files
  | count + 1, files => renameUp name count (rename files (name count) (name (count + 1)))

/-- The files after each number up to a limit has moved up. The file at the limit stays if none takes its place. -/
def movedUp (limit : Nat) (slots : Nat → Option Content) (number : Nat) : Option Content :=
  if limit = 0 then slots number
  else if number = 0 then none
  else if number < limit then slots (number - 1)
  else if number = limit then (slots (limit - 1)).or (slots limit)
  else slots number

theorem rename_other (files : Name → Option Content) {source target other : Name} (apart : other ≠ source)
    (apart' : other ≠ target) : rename files source target other = files other := by
  cases found : files source with
  | none => simp [rename, found]
  | some content => simp [rename, found, apart, apart']

theorem rename_source (files : Name → Option Content) {source target : Name} (apart : source ≠ target) :
    rename files source target source = none := by
  cases found : files source with
  | none => simp [rename, found]
  | some content => simp [rename, found, apart]

theorem rename_target (files : Name → Option Content) (source target : Name) :
    rename files source target target = (files source).or (files target) := by
  cases found : files source with
  | none => simp [rename, found]
  | some content => simp [rename, found]

section MovedUp

variable {limit number : Nat} (slots : Nat → Option Content)

theorem movedUp_first (positive : 0 < limit) : movedUp limit slots 0 = none := by
  rw [movedUp, if_neg (Nat.ne_of_gt positive), if_pos rfl]

theorem movedUp_below (below : number + 1 < limit) : movedUp limit slots (number + 1) = slots number := by
  rw [movedUp, if_neg (by omega), if_neg (Nat.succ_ne_zero number), if_pos below, Nat.add_sub_cancel]

theorem movedUp_limit (limit : Nat) :
    movedUp (limit + 1) slots (limit + 1) = (slots limit).or (slots (limit + 1)) := by
  rw [movedUp, if_neg (Nat.succ_ne_zero limit), if_neg (Nat.succ_ne_zero limit), if_neg (Nat.lt_irrefl _), if_pos rfl,
    Nat.add_sub_cancel]

theorem movedUp_above (above : limit < number) : movedUp limit slots number = slots number := by
  unfold movedUp
  rw [if_neg (by omega : ¬ number = 0), if_neg (by omega : ¬ number < limit), if_neg (by omega : ¬ number = limit),
    ite_self]

end MovedUp

/-- Files without one of the numbers stay as they are. -/
theorem renameUp_other (name : Nat → Name) (limit : Nat) (files : Name → Option Content) {other : Name}
    (apart : ∀ number ≤ limit, other ≠ name number) : renameUp name limit files other = files other := by
  induction limit generalizing files with
  | zero => rfl
  | succ limit ih =>
      rw [renameUp, ih _ fun number below => apart number (Nat.le_succ_of_le below),
        rename_other files (apart limit (Nat.le_succ limit)) (apart (limit + 1) (Nat.le_refl _))]

/-- The moves from the last number on never overwrite a file that has still to move. -/
theorem renameUp_number {name : Nat → Name} (distinct : Function.Injective name) (limit : Nat)
    (files : Name → Option Content) (number : Nat) :
    renameUp name limit files (name number) = movedUp limit (files ∘ name) number := by
  induction limit generalizing files with
  | zero => rfl
  | succ limit ih =>
      have apart : name limit ≠ name (limit + 1) := distinct.ne (Nat.ne_of_lt (Nat.lt_succ_self limit))
      have source := rename_source files apart
      have target := rename_target files (name limit) (name (limit + 1))
      have others : ∀ other, other ≠ limit → other ≠ limit + 1 →
          rename files (name limit) (name (limit + 1)) (name other) = files (name other) :=
        fun other first second => rename_other files (distinct.ne first) (distinct.ne second)
      rw [renameUp, ih]
      rcases Nat.lt_trichotomy number (limit + 1) with below | rfl | above
      · cases number with
        | zero =>
            rw [movedUp_first _ (Nat.succ_pos limit)]
            rcases Nat.eq_zero_or_pos limit with rfl | positive
            · exact source
            · exact movedUp_first _ positive
        | succ number =>
            rw [movedUp_below _ below, Function.comp_apply]
            rcases Nat.lt_or_ge (number + 1) limit with lower | last
            · rw [movedUp_below _ lower]
              exact others number (by omega) (by omega)
            · -- The file that has just moved away leaves its number to the one below it.
              obtain rfl : limit = number + 1 := by omega
              rw [movedUp_limit, Function.comp_apply, Function.comp_apply, source, Option.or_none]
              exact others number (by omega) (by omega)
      · rw [movedUp_above _ (Nat.lt_succ_self limit), movedUp_limit]
        exact target
      · rw [movedUp_above _ (by omega : limit < number), movedUp_above _ above]
        exact others number (by omega) (by omega)

end SecureChat.Library
