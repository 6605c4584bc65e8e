import Mathlib.Data.List.DropRight
import Mathlib.Tactic.SplitIfs
import ScriptBridge.Module.Name

/-!
# Resolving relative imports

A relative import is resolved by walking: from the directory of the importing module one step for
each segment of the specifier.  A name is made canonical by the same walk from the top.  The two
meet because a canonical name has no `.` and no `..`, so that walking along it only goes down.

* `canonicalChars_of_folds` : a name with something to fold becomes **the path that its segments
  walk to from the top**.
* `resolveChars_of_isPlain` : an import from a directory without `.` and `..` resolves to **the
  canonical form of the joined path**.
* `walk_eq` : of the directory there stays what lies below the lowest point of the walk, and behind
  it there are only names.
-/

namespace ScriptBridge

namespace ModuleName

variable {path parts : List (List Char)} {s s' base : List Char}

/-! ### Segments -/

/-- They are what the slashes split the path into. -/
theorem segments_eq_splitOn (s : List Char) : segments s = s.splitOn '/' := by
  induction s with
  | nil => rfl
  | cons c rest ih =>
    rw [segments, List.splitOn_cons_eq_if_modifyHead, ih]
    by_cases hc : c = '/'
    · simp [hc]
    · cases hs : rest.splitOn '/' with
      | nil => exact absurd hs (List.splitOn_ne_nil _ _)
      | cons t more => simp [hc]

theorem segments_cons_slash (s : List Char) : segments ('/' :: s) = [] :: segments s := by
  rw [segments, if_pos rfl]

theorem segments_append_slash (s s' : List Char) :
    segments (s ++ '/' :: s') = segments s ++ segments s' := by
  simp only [segments_eq_splitOn, List.splitOn_append_cons_self]

theorem segments_of_not_mem (h : '/' ∉ s) : segments s = [s] := by
  rw [segments_eq_splitOn, List.splitOn_eq_singleton h]

/-- No segment has a slash. -/
theorem not_mem_of_mem_segments (h : s' ∈ segments s) : '/' ∉ s' := by
  induction s generalizing s' with
  | nil => simp_all [segments]
  | cons c rest ih =>
    rw [segments] at h
    split_ifs at h with hc
    · obtain rfl | h := List.mem_cons.1 h
      · simp
      · exact ih h
    · split at h
      · simp_all [Ne.symm hc]
      · rename_i t more hs
        obtain rfl | h := List.mem_cons.1 h
        · have ht := ih (hs ▸ List.mem_cons_self)
          simp [Ne.symm hc, ht]
        · exact ih (hs ▸ List.mem_cons_of_mem _ h)

/-- A path has the segments that it is made of. -/
theorem segments_joinSegments (hne : parts ≠ []) (h : ∀ p ∈ parts, '/' ∉ p) :
    segments (joinSegments parts) = parts := by
  rw [segments_eq_splitOn, joinSegments]
  exact List.splitOn_intercalate '/' h hne

/-! ### Relative paths -/

/-- A relative path is one whose first segment is `.` or `..`, with a slash behind it. -/
theorem isRelativeChars_iff : isRelativeChars s = true ↔
    ∃ rest, s = ['.'] ++ '/' :: rest ∨ s = ['.', '.'] ++ '/' :: rest := by
  constructor
  · intro h
    unfold isRelativeChars at h
    split at h
    · exact ⟨_, .inl rfl⟩
    · exact ⟨_, .inr rfl⟩
    · cases h
  · rintro ⟨rest, rfl | rfl⟩ <;> rfl

/-- Whether a path is relative shows before its last slash. -/
theorem isRelativeChars_append_slash {above file : List Char}
    (h : isRelativeChars (above ++ '/' :: file) = true) (s : List Char) :
    isRelativeChars (above ++ '/' :: s) = true := by
  have hfirst (dots : List Char) (hdots : '/' ∉ dots) (rest : List Char)
      (heq : above ++ '/' :: file = dots ++ '/' :: rest) :
      ∃ more, above ++ '/' :: s = dots ++ '/' :: more := by
    obtain ⟨t, rfl, ht⟩ | ⟨t, rfl, ht⟩ := List.append_eq_append_iff.1 heq
    · cases t with
      | nil => exact ⟨s, by simp⟩
      | cons c t =>
        obtain ⟨rfl, -⟩ := List.cons.inj ht
        simp at hdots
    · cases t with
      | nil => exact ⟨s, by simp⟩
      | cons c t =>
        obtain ⟨rfl, -⟩ := List.cons.inj ht
        exact ⟨t ++ '/' :: s, by simp⟩
  obtain ⟨rest, h | h⟩ := isRelativeChars_iff.1 h
  · obtain ⟨more, hmore⟩ := hfirst ['.'] (by decide) rest h
    exact isRelativeChars_iff.2 ⟨more, .inl hmore⟩
  · obtain ⟨more, hmore⟩ := hfirst ['.', '.'] (by decide) rest h
    exact isRelativeChars_iff.2 ⟨more, .inr hmore⟩

/-! ### Names and plain paths -/

/-- A segment that goes down: neither empty nor `.` nor `..`. -/
def IsName (segment : List Char) : Prop :=
  segment ≠ [] ∧ segment ≠ ['.'] ∧ segment ≠ ['.', '.']

/-- A path without the segments `.` and `..`. -/
def IsPlain (s : List Char) : Prop := ∀ p ∈ segments s, p ≠ ['.'] ∧ p ≠ ['.', '.']

instance (segment : List Char) : Decidable (IsName segment) := by
  unfold IsName; infer_instance

instance (s : List Char) : Decidable (IsPlain s) := by
  unfold IsPlain; infer_instance

/-- A relative path begins with `.` or `..`. -/
theorem not_isPlain_of_isRelativeChars (h : isRelativeChars s = true) : ¬ IsPlain s := by
  intro hs
  unfold isRelativeChars at h
  split at h
  · exact (hs ['.'] (by simp [segments])).1 rfl
  · exact (hs ['.', '.'] (by simp [segments])).2 rfl
  · cases h

theorem folds_eq_false_iff : folds s = false ↔ IsPlain s := by
  constructor
  · intro h p hp
    rw [folds, Bool.or_eq_false_iff, List.any_eq_false] at h
    have hp' := h.2 p hp
    simpa using hp'
  · intro h
    rw [folds, Bool.or_eq_false_iff, List.any_eq_false]
    refine ⟨Bool.eq_false_iff.2 fun hr => not_isPlain_of_isRelativeChars hr h, fun p hp => ?_⟩
    simpa using h p hp

/-! ### Walking -/

/-- Where the segments lead to from a path. -/
def walk (path segments : List (List Char)) : List (List Char) := segments.foldl step path

@[simp] theorem walk_nil (path : List (List Char)) : walk path [] = path := rfl

@[simp] theorem walk_cons (path parts : List (List Char)) (s : List Char) :
    walk path (s :: parts) = walk (step path s) parts := rfl

theorem walk_append (path parts parts' : List (List Char)) :
    walk path (parts ++ parts') = walk (walk path parts) parts' := List.foldl_append

/-- An empty segment and `.` lead nowhere. -/
theorem step_of_stays (h : s = [] ∨ s = ['.']) : step path s = path := if_pos h

theorem step_up (path : List (List Char)) : step path ['.', '.'] = path.dropLast := by
  simp [step]

theorem step_of_isName (h : IsName s) : step path s = path ++ [s] := by
  obtain ⟨h₀, h₁, h₂⟩ := h
  simp [step, h₀, h₁, h₂]

/-- Without `.` and `..` a walk only goes down. -/
theorem walk_of_plain (h : ∀ p ∈ parts, p ≠ ['.'] ∧ p ≠ ['.', '.']) :
    walk path parts = path ++ parts.filter (· ≠ []) := by
  induction parts generalizing path with
  | nil => simp
  | cons p rest ih =>
    obtain ⟨hp, hrest⟩ := List.forall_mem_cons.1 h
    rw [walk_cons, ih hrest]
    by_cases hnil : p = []
    · simp [hnil, step_of_stays]
    · rw [step_of_isName ⟨hnil, hp⟩]
      simp [hnil]

/-- The length of the shortest path on a walk. -/
def lowest : List (List Char) → List (List Char) → Nat
  | path, [] => path.length
  | path, s :: rest => min path.length (lowest (step path s) rest)

theorem lowest_le (path parts : List (List Char)) : lowest path parts ≤ path.length := by
  cases parts with
  | nil => exact Nat.le_refl _
  | cons p rest => exact Nat.min_le_left _ _

/-- **What a walk leads to**: what it has left of the path, and names that it has gone down to. -/
theorem walk_eq (path parts : List (List Char)) : ∃ down, (∀ p ∈ down, IsName p ∧ p ∈ parts) ∧
    walk path parts = path.take (lowest path parts) ++ down := by
  induction parts generalizing path with
  | nil => exact ⟨[], by simp, by simp [lowest]⟩
  | cons p rest ih =>
    obtain ⟨down, hdown, hwalk⟩ := ih (step path p)
    have hmem : ∀ q ∈ down, IsName q ∧ q ∈ p :: rest := fun q hq =>
      ⟨(hdown q hq).1, List.mem_cons_of_mem _ (hdown q hq).2⟩
    have hlow := lowest_le (step path p) rest
    rw [walk_cons, hwalk, lowest]
    by_cases hstay : p = [] ∨ p = ['.']
    · refine ⟨down, hmem, ?_⟩
      rw [step_of_stays hstay] at hlow ⊢
      rw [Nat.min_eq_right hlow]
    · by_cases hup : p = ['.', '.']
      · -- the last segment of the path is gone for good
        refine ⟨down, hmem, ?_⟩
        rw [hup, step_up] at hlow ⊢
        rw [List.length_dropLast] at hlow
        have hshort : lowest path.dropLast rest ≤ path.length := by omega
        have htake : path.dropLast.take (lowest path.dropLast rest) =
            path.take (lowest path.dropLast rest) := by
          rw [List.dropLast_eq_take, List.take_take, ← List.dropLast_eq_take, Nat.min_eq_left hlow]
        rw [htake, Nat.min_eq_right hshort]
      · have hname : IsName p := ⟨fun h => hstay (.inl h), fun h => hstay (.inr h), hup⟩
        rw [step_of_isName hname] at hlow ⊢
        rw [List.length_append, List.length_singleton] at hlow
        by_cases hdeep : lowest (path ++ [p]) rest ≤ path.length
        · refine ⟨down, hmem, ?_⟩
          rw [Nat.min_eq_right hdeep, List.take_append_of_le_length hdeep]
        · -- the walk does not come back, so the segment stays
          refine ⟨p :: down, List.forall_mem_cons.2 ⟨⟨hname, List.mem_cons_self⟩, hmem⟩, ?_⟩
          have hall : lowest (path ++ [p]) rest = (path ++ [p]).length := by simp; omega
          rw [hall, List.take_length, Nat.min_eq_left (by simp), List.take_length]
          simp

/-- All that a walk leads to was there, or it is a name that it was led along. -/
theorem mem_walk (h : s ∈ walk path parts) : s ∈ path ∨ IsName s ∧ s ∈ parts := by
  obtain ⟨down, hdown, hwalk⟩ := walk_eq path parts
  rw [hwalk, List.mem_append] at h
  exact h.imp List.mem_of_mem_take (hdown s)

/-- The segments of a walk from a directory are neither empty nor have a slash. -/
theorem mem_walk_directory {p : List Char} (h : p ∈ walk (directory base) (segments s)) :
    p ≠ [] ∧ '/' ∉ p := by
  obtain h | ⟨hname, h⟩ := mem_walk h
  · obtain ⟨hmem, hne⟩ := List.mem_filter.1 h
    exact ⟨by simpa using hne, not_mem_of_mem_segments (List.dropLast_subset _ hmem)⟩
  · exact ⟨hname.1, not_mem_of_mem_segments h⟩

/-! ### Names of paths -/

/-- The name of a path; `rooted` says whether it is taken from the root. -/
def nameOf (rooted : Bool) (path : List (List Char)) : List Char :=
  if rooted then '/' :: joinSegments path else joinSegments path

/-- Whether a name is taken from the root. -/
def isRooted (s : List Char) : Bool := s.head? = some '/'

/-- A name is taken from the root if it is made so. -/
theorem isRooted_nameOf {rooted : Bool} (h : ∀ p ∈ path, p ≠ [] ∧ '/' ∉ p) :
    isRooted (nameOf rooted path) = rooted := by
  cases rooted with
  | true => rfl
  | false =>
    cases path with
    | nil => rfl
    | cons p rest =>
      obtain ⟨hne, hslash⟩ := h p List.mem_cons_self
      obtain ⟨c, p, rfl⟩ := List.exists_cons_of_ne_nil hne
      have hc : c ≠ '/' := fun hc => hslash (hc ▸ List.mem_cons_self)
      cases rest <;> simp [nameOf, joinSegments, isRooted, hc]

/-- The directory of a path to a file is what the file stands behind. -/
theorem directory_nameOf_concat {rooted : Bool} {file : List Char}
    (h : ∀ p ∈ path, p ≠ [] ∧ '/' ∉ p) (hfile : '/' ∉ file) :
    directory (nameOf rooted (path ++ [file])) = path := by
  have hparts : segments (joinSegments (path ++ [file])) = path ++ [file] := by
    refine segments_joinSegments (by simp) fun p hp => ?_
    obtain hp | hp := List.mem_append.1 hp
    · exact (h p hp).2
    · rwa [List.mem_singleton.1 hp]
  have hfilter : path.filter (· ≠ []) = path :=
    List.filter_eq_self.2 fun p hp => by simpa using (h p hp).1
  cases rooted with
  | false => rw [directory, nameOf, if_neg Bool.false_ne_true, hparts, List.dropLast_concat,
    hfilter]
  | true =>
    rw [directory, nameOf, if_pos rfl, segments_cons_slash, hparts, ← List.cons_append,
      List.dropLast_concat, List.filter_cons_of_neg (by simp), hfilter]

theorem resolveChars_of_isRelativeChars (h : isRelativeChars s = true) :
    resolveChars base s = nameOf (isRooted base) (walk (directory base) (segments s)) := by
  rw [resolveChars, if_pos h, nameOf, isRooted]
  by_cases hb : base.head? = some '/' <;> simp [hb, walk]

theorem isRelativeChars_fromHere (s : List Char) : isRelativeChars (fromHere s) = true := by
  rw [fromHere]
  split_ifs with h
  · exact h
  · rfl

/-- A path is walked as if it began here. -/
theorem walk_fromHere (s : List Char) : walk [] (segments (fromHere s)) = walk [] (segments s) := by
  rw [fromHere]
  split_ifs
  · rfl
  · have hhere : segments ('.' :: '/' :: s) = ['.'] :: segments s := segments_append_slash ['.'] s
    rw [hhere, walk_cons, step_of_stays (.inr rfl)]

/-- **What has something to fold becomes the path that its segments walk to from the top.** -/
theorem canonicalChars_of_folds (h : folds s = true) :
    canonicalChars s = nameOf (isRooted s) (walk [] (segments s)) := by
  have hhere {base : List Char} (hbase : directory base = []) (s : List Char) :
      resolveChars base (fromHere s) = nameOf (isRooted base) (walk [] (segments s)) := by
    rw [resolveChars_of_isRelativeChars (isRelativeChars_fromHere s), hbase, walk_fromHere]
  unfold canonicalChars
  rw [if_pos h]
  split
  · rw [hhere (by decide), segments_cons_slash, walk_cons, step_of_stays (.inl rfl)]
    rfl
  · rename_i hs
    have hroot : isRooted s = false := by
      cases s with
      | nil => rfl
      | cons c rest =>
        have hc : c ≠ '/' := fun hc => hs rest (hc ▸ rfl)
        simp [isRooted, hc]
    rw [hhere (by decide), hroot]
    rfl

theorem canonicalChars_of_isPlain (h : IsPlain s) : canonicalChars s = s := by
  unfold canonicalChars
  rw [if_neg (Bool.eq_false_iff.1 (folds_eq_false_iff.2 h))]

/-- The name of a path is plain exactly if the path is. -/
theorem isPlain_nameOf {rooted : Bool} (h : ∀ p ∈ path, '/' ∉ p) : IsPlain (nameOf rooted path) ↔
    ∀ p ∈ path, p ≠ ['.'] ∧ p ≠ ['.', '.'] := by
  rw [IsPlain, nameOf]
  cases path with
  | nil =>
    have hempty : segments (joinSegments []) = [[]] := by decide
    cases rooted <;> simp [segments_cons_slash, hempty]
  | cons p rest =>
    have hparts := segments_joinSegments (List.cons_ne_nil p rest) h
    cases rooted <;> simp [segments_cons_slash, hparts]

/-- **A canonical name has no `.` and no `..`.** -/
theorem isPlain_canonicalChars (s : List Char) : IsPlain (canonicalChars s) := by
  cases h : folds s with
  | false =>
    have hplain := folds_eq_false_iff.1 h
    rwa [canonicalChars_of_isPlain hplain]
  | true =>
    have hwalk : ∀ p ∈ walk [] (segments s), IsName p ∧ p ∈ segments s := fun p hp =>
      (mem_walk hp).resolve_left List.not_mem_nil
    rw [canonicalChars_of_folds h, isPlain_nameOf fun p hp =>
      not_mem_of_mem_segments (hwalk p hp).2]
    exact fun p hp => (hwalk p hp).1.2

theorem canonicalChars_eq_self_iff : canonicalChars s = s ↔ IsPlain s :=
  ⟨fun h => h ▸ isPlain_canonicalChars s, canonicalChars_of_isPlain⟩

/-- A canonical name is taken from the root exactly if the path is. -/
theorem isRooted_canonicalChars (s : List Char) : isRooted (canonicalChars s) = isRooted s := by
  cases h : folds s with
  | false => rw [canonicalChars_of_isPlain (folds_eq_false_iff.1 h)]
  | true =>
    rw [canonicalChars_of_folds h, isRooted_nameOf]
    intro p hp
    obtain ⟨hname, hp⟩ := (mem_walk hp).resolve_left List.not_mem_nil
    exact ⟨hname.1, not_mem_of_mem_segments hp⟩

/-! ### Folders -/

/-- What stands before the file in a path: up to its last slash, and that too. -/
def folderChars (s : List Char) : List Char := s.rdropWhile (· ≠ '/')

/-- A path is a folder and a file, or a file alone. -/
theorem folder_cases (s : List Char) :
    (∃ above file, s = above ++ '/' :: file ∧ '/' ∉ file ∧ folderChars s = above ++ ['/']) ∨
      '/' ∉ s ∧ folderChars s = [] := by
  induction s using List.reverseRecOn with
  | nil => exact .inr ⟨List.not_mem_nil, rfl⟩
  | append_singleton s c ih =>
    by_cases hc : c = '/'
    · refine .inl ⟨s, [], by simp [hc], List.not_mem_nil, ?_⟩
      rw [folderChars, List.rdropWhile_concat_neg _ _ _ (by simp [hc]), hc]
    · have hfolder : folderChars (s ++ [c]) = folderChars s := by
        rw [folderChars, List.rdropWhile_concat_pos _ _ _ (by simp [hc]), folderChars]
      rw [hfolder]
      obtain ⟨above, file, rfl, hfile, habove⟩ | ⟨hs, hnil⟩ := ih
      · refine .inl ⟨above, file ++ [c], by simp, ?_, habove⟩
        simp [hfile, Ne.symm hc]
      · exact .inr ⟨by simp [hs, Ne.symm hc], hnil⟩

/-- A folder with something behind it has the segments of the directory, as far as these are not
empty, and those of what is behind it. -/
theorem segments_folderChars_append (base s : List Char) :
    ∃ parts, segments (folderChars base ++ s) = parts ++ segments s ∧
      directory base = parts.filter (· ≠ []) ∧ parts ⊆ segments base := by
  obtain ⟨above, file, rfl, hfile, hfolder⟩ | ⟨hbase, hfolder⟩ := folder_cases base
  · refine ⟨segments above, ?_, ?_, ?_⟩
    · rw [hfolder, List.append_assoc, List.singleton_append, segments_append_slash]
    · rw [directory, segments_append_slash, segments_of_not_mem hfile, List.dropLast_concat]
    · rw [segments_append_slash]
      exact List.subset_append_left _ _
  · refine ⟨[], ?_, ?_, List.nil_subset _⟩
    · rw [hfolder, List.nil_append, List.nil_append]
    · rw [directory, segments_of_not_mem hbase]
      rfl

/-- A relative path in a folder is taken from the root if the folder is. -/
theorem isRooted_folderChars_append (h : isRelativeChars s = true) :
    isRooted (folderChars base ++ s) = isRooted base := by
  obtain ⟨above, file, rfl, -, hfolder⟩ | ⟨hbase, hfolder⟩ := folder_cases base
  · rw [hfolder]
    cases above <;> simp [isRooted]
  · have hs : isRooted s = false := by
      unfold isRelativeChars at h
      split at h
      · rfl
      · rfl
      · cases h
    rw [hfolder, List.nil_append, hs]
    cases base with
    | nil => rfl
    | cons c rest =>
      have hc : c ≠ '/' := fun hc => hbase (hc ▸ List.mem_cons_self)
      simp [isRooted, hc]

/-- **An import from a directory without `.` and `..` resolves to the canonical form of the joined
path.** -/
theorem resolveChars_of_isPlain (hbase : IsPlain base) (hs : isRelativeChars s = true) :
    resolveChars base s = canonicalChars (folderChars base ++ s) := by
  obtain ⟨parts, hsegments, hdirectory, hsub⟩ := segments_folderChars_append base s
  have hfolds : folds (folderChars base ++ s) = true := by
    by_contra hplain
    rw [Bool.not_eq_true, folds_eq_false_iff, IsPlain, hsegments] at hplain
    refine not_isPlain_of_isRelativeChars hs fun p hp => ?_
    exact hplain p (List.mem_append_right _ hp)
  have hdown : walk [] parts = directory base := by
    rw [walk_of_plain fun p hp => hbase p (hsub hp), hdirectory, List.nil_append]
  rw [resolveChars_of_isRelativeChars hs, canonicalChars_of_folds hfolds,
    isRooted_folderChars_append hs, hsegments, walk_append, hdown]

/-- **When an import resolves to a plain path**: when nothing that the walk leaves of the directory
is `.` or `..`. -/
theorem isPlain_resolveChars (hs : isRelativeChars s = true) : IsPlain (resolveChars base s) ↔
    ∀ p ∈ (directory base).take (lowest (directory base) (segments s)),
      p ≠ ['.'] ∧ p ≠ ['.', '.'] := by
  have hslash : ∀ p ∈ walk (directory base) (segments s), '/' ∉ p := fun p hp =>
    (mem_walk_directory hp).2
  rw [resolveChars_of_isRelativeChars hs, isPlain_nameOf hslash]
  obtain ⟨down, hdown, hwalk⟩ := walk_eq (directory base) (segments s)
  rw [hwalk]
  constructor
  · exact fun h p hp => h p (List.mem_append_left _ hp)
  · intro h p hp
    obtain hp | hp := List.mem_append.1 hp
    · exact h p hp
    · exact (hdown p hp).1.2

/-- **A path that is relative to a relative path** is walked from where that path leads to. -/
theorem resolveChars_resolveChars {above file : List Char}
    (habove : isRelativeChars (above ++ '/' :: file) = true) (hfile : IsName file)
    (hslash : '/' ∉ file) (hs : isRelativeChars s = true) :
    resolveChars (resolveChars base (above ++ '/' :: file)) s =
      resolveChars base (above ++ '/' :: s) := by
  have hpath : ∀ p ∈ walk (directory base) (segments above), p ≠ [] ∧ '/' ∉ p := fun _ =>
    mem_walk_directory
  have hwhole : ∀ p ∈ walk (directory base) (segments above) ++ [file], p ≠ [] ∧ '/' ∉ p := by
    intro p hp
    obtain hp | hp := List.mem_append.1 hp
    · exact hpath p hp
    · rw [List.mem_singleton.1 hp]
      exact ⟨hfile.1, hslash⟩
  have hfirst : resolveChars base (above ++ '/' :: file) =
      nameOf (isRooted base) (walk (directory base) (segments above) ++ [file]) := by
    rw [resolveChars_of_isRelativeChars habove, segments_append_slash, segments_of_not_mem hslash,
      walk_append, walk_cons, walk_nil, step_of_isName hfile]
  have hjoined := isRelativeChars_append_slash habove s
  rw [hfirst, resolveChars_of_isRelativeChars hs, isRooted_nameOf hwhole,
    directory_nameOf_concat hpath hslash, resolveChars_of_isRelativeChars hjoined,
    segments_append_slash, walk_append]

/-! ### Names as texts -/

theorem canonical_eq_self_iff {name : String} : canonical name = name ↔ IsPlain name.toList := by
  rw [← canonicalChars_eq_self_iff, ← String.toList_inj, canonical, String.toList_ofList]

/-- **A canonical name stays as it is.** -/
theorem canonical_canonical (filename : String) :
    canonical (canonical filename) = canonical filename := by
  rw [canonical_eq_self_iff, canonical, String.toList_ofList]
  exact isPlain_canonicalChars _

end ModuleName

end ScriptBridge
