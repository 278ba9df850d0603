import Mathlib.Data.List.TakeWhile
import Transcoding.Text.Part

/-!
The last segment of a path, whatever slashes follow it. Every path has exactly one, and it is empty
only if the path has nothing but slashes. Where slashes at the end do count, a path has exactly one
file name, and a file name exactly one stem: what is after the last slash, and before the last dot.
-/

namespace Transcoding.Text

/-- Whether a path ends in a segment, perhaps with slashes after it. The empty segment stands for
paths that have nothing else. -/
def EndsIn (path segment : List Char) : Prop :=
  '/' ∉ segment ∧ ∃ front slashes, path = front ++ (segment ++ slashes) ∧
    (∀ c ∈ slashes, c = '/') ∧ (∀ c ∈ front.getLast?, c = '/') ∧ (segment = [] → front = [])

theorem forall_mem_reverse_bne {sep : Char} {cs : List Char} (h : sep ∉ cs) :
    ∀ c ∈ cs.reverse, (c != sep) = true :=
  fun _ hc => bne_iff_ne.2 fun same => h (same ▸ List.mem_reverse.1 hc)

theorem lastSegment_append {front segment : List Char} (hsegment : '/' ∉ segment)
    (hfront : ∀ c ∈ front.getLast?, c = '/') : lastSegment (front ++ segment) = segment := by
  have stopped : front.reverse.takeWhile (· != '/') = [] := by
    rcases List.eq_nil_or_concat front with rfl | ⟨rest, last, rfl⟩
    · rfl
    · rw [hfront last (by simp)]
      simp
  rw [lastSegment, List.reverse_append,
    List.takeWhile_append_of_pos (forall_mem_reverse_bne hsegment), stopped, List.append_nil,
    List.reverse_reverse]

theorem dropTrailingSlashes_append {cs slashes : List Char} (hslashes : ∀ c ∈ slashes, c = '/')
    (hcs : ∀ c ∈ cs.getLast?, c ≠ '/') : dropTrailingSlashes (cs ++ slashes) = cs := by
  rw [dropTrailingSlashes,
    dropEndWhile_append_of_forall cs fun c hc => beq_iff_eq.2 (hslashes c hc), dropEndWhile]
  rcases List.eq_nil_or_concat cs with rfl | ⟨rest, last, rfl⟩
  · rfl
  · have other : last ≠ '/' := hcs last (by simp)
    simp [other]

/-- Whether a text is another one without the slashes at its end. -/
def IsBare (cs bare : List Char) : Prop :=
  (∃ slashes, cs = bare ++ List.replicate slashes '/') ∧ bare.getLast? ≠ some '/'

theorem isBare_dropTrailingSlashes (cs : List Char) : IsBare cs (dropTrailingSlashes cs) := by
  refine ⟨⟨(cs.reverse.takeWhile (· == '/')).length, ?_⟩, fun h => ?_⟩
  · have slashes : cs.reverse.takeWhile (· == '/') =
        List.replicate (cs.reverse.takeWhile (· == '/')).length '/' :=
      List.eq_replicate_of_mem fun c hc =>
        beq_iff_eq.1 (List.mem_takeWhile_imp (p := (· == '/')) hc)
    rw [← List.reverse_replicate, ← slashes, dropTrailingSlashes, dropEndWhile,
      ← List.reverse_append, List.takeWhile_append_dropWhile, List.reverse_reverse]
  · rw [dropTrailingSlashes, dropEndWhile, List.getLast?_reverse] at h
    have stop := List.head?_dropWhile_not (· == '/') cs.reverse
    rw [h] at stop
    cases stop

theorem IsBare.eq_dropTrailingSlashes {cs bare : List Char} (h : IsBare cs bare) :
    dropTrailingSlashes cs = bare := by
  obtain ⟨⟨slashes, rfl⟩, hbare⟩ := h
  refine dropTrailingSlashes_append (fun c hc => List.eq_of_mem_replicate hc) ?_
  rintro c hc rfl
  exact hbare hc

theorem endsIn_lastSegment (path : List Char) :
    EndsIn path (lastSegment (dropTrailingSlashes path)) := by
  let back := path.reverse.dropWhile (· == '/')
  have parts : path =
      (back.dropWhile (· != '/')).reverse ++
        ((back.takeWhile (· != '/')).reverse ++ (path.reverse.takeWhile (· == '/')).reverse) := by
    rw [← List.append_assoc, ← List.reverse_append, List.takeWhile_append_dropWhile,
      ← List.reverse_append, List.takeWhile_append_dropWhile, List.reverse_reverse]
  have segment : lastSegment (dropTrailingSlashes path) = (back.takeWhile (· != '/')).reverse := by
    rw [lastSegment, dropTrailingSlashes, dropEndWhile, List.reverse_reverse]
  rw [segment]
  refine ⟨fun h => ?_, _, _, parts, fun c hc => ?_, fun c hc => ?_, fun h => ?_⟩
  · exact bne_iff_ne.1 (List.mem_takeWhile_imp (p := (· != '/')) (List.mem_reverse.1 h)) rfl
  · exact beq_iff_eq.1 (List.mem_takeWhile_imp (p := (· == '/')) (List.mem_reverse.1 hc))
  · rw [List.getLast?_reverse] at hc
    have stop := List.head?_dropWhile_not (· != '/') back
    rw [Option.mem_def.1 hc] at stop
    simpa using stop
  · -- Whatever is left once slashes are dropped begins with no slash, so it would be kept.
    rw [List.reverse_eq_nil_iff] at h
    cases hback : back with
    | nil => rfl
    | cons c rest =>
        have first := List.head?_dropWhile_not (· == '/') path.reverse
        rw [show path.reverse.dropWhile (· == '/') = c :: rest from hback] at first
        rw [hback, List.takeWhile_cons_of_pos (by simpa using first)] at h
        cases h

/-- A path ends in just one segment. -/
theorem endsIn_iff {path segment : List Char} :
    EndsIn path segment ↔ segment = lastSegment (dropTrailingSlashes path) := by
  constructor
  · rintro ⟨hsegment, front, slashes, rfl, hslashes, hfront, hempty⟩
    cases hlast : segment.getLast? with
    | none =>
        obtain rfl := List.getLast?_eq_none_iff.1 hlast
        rw [hempty rfl, List.nil_append,
          dropTrailingSlashes_append hslashes (by simp)]
        rfl
    | some last =>
        have ends : ∀ c ∈ (front ++ segment).getLast?, c ≠ '/' := by
          rw [List.getLast?_append, hlast]
          rintro c hc rfl
          cases hc
          exact hsegment (List.mem_of_getLast? hlast)
        rw [← List.append_assoc, dropTrailingSlashes_append hslashes ends,
          lastSegment_append hsegment hfront]
  · rintro rfl
    exact endsIn_lastSegment path

theorem EndsIn.eq_nil_iff {path segment : List Char} (h : EndsIn path segment) :
    segment = [] ↔ ∀ c ∈ path, c = '/' := by
  obtain ⟨hsegment, front, slashes, rfl, hslashes, -, hempty⟩ := h
  constructor
  · rintro rfl
    rwa [hempty rfl]
  · intro h
    refine List.eq_nil_iff_forall_not_mem.2 fun c hc => hsegment ?_
    rwa [h c (List.mem_append_right _ (List.mem_append_left _ hc))] at hc

example : EndsIn "/jobs/17//".toList "17".toList := endsIn_iff.2 rfl

/-- The segments between the slashes of a path, without those that are empty. -/
def segments (path : List Char) : List (List Char) :=
  (path.splitOn '/').filter (· ≠ [])

theorem segments_append_slash (front rest : List Char) :
    segments (front ++ '/' :: rest) = segments front ++ segments rest := by
  have separated : (front ++ '/' :: rest).splitOn '/' = front.splitOn '/' ++ rest.splitOn '/' :=
    List.splitOnP_append_cons front rest (beq_self_eq_true '/')
  rw [segments, separated, List.filter_append, segments, segments]

theorem segments_of_not_mem {segment : List Char} (h : '/' ∉ segment) (nonempty : segment ≠ []) :
    segments segment = [segment] := by
  simp [segments, List.splitOn_eq_singleton h, nonempty]

theorem segments_of_slashes {slashes : List Char} (h : ∀ c ∈ slashes, c = '/') :
    segments slashes = [] := by
  induction slashes with
  | nil => rfl
  | cons c slashes ih =>
      obtain ⟨rfl, hslashes⟩ := List.forall_mem_cons.1 h
      exact (segments_append_slash [] slashes).trans (ih hslashes)

theorem segments_append_slashes (path : List Char) {slashes : List Char}
    (h : ∀ c ∈ slashes, c = '/') : segments (path ++ slashes) = segments path := by
  cases slashes with
  | nil => rw [List.append_nil]
  | cons c slashes =>
      obtain ⟨rfl, hslashes⟩ := List.forall_mem_cons.1 h
      rw [segments_append_slash, segments_of_slashes hslashes, List.append_nil]

/-- The segment that a path ends in is its last one, or empty if it has none. -/
theorem EndsIn.eq_getLastD {path segment : List Char} (h : EndsIn path segment) :
    segment = (segments path).getLastD [] := by
  obtain ⟨hsegment, front, slashes, rfl, hslashes, hfront, hempty⟩ := h
  rw [← List.append_assoc, segments_append_slashes _ hslashes]
  by_cases nonempty : segment = []
  · rw [hempty nonempty, nonempty]
    rfl
  · rcases List.eq_nil_or_concat front with rfl | ⟨rest, last, rfl⟩
    · rw [List.nil_append, segments_of_not_mem hsegment nonempty]
      rfl
    · obtain rfl : last = '/' := hfront last (by simp)
      rw [List.concat_append, segments_append_slash, segments_of_not_mem hsegment nonempty,
        List.getLastD_concat]

theorem EndsIn.append_slashes {path segment slashes : List Char} (h : EndsIn path segment)
    (hslashes : ∀ c ∈ slashes, c = '/') : EndsIn (path ++ slashes) segment := by
  obtain ⟨hsegment, front, others, rfl, hothers, hfront, hempty⟩ := h
  refine ⟨hsegment, front, others ++ slashes, ?_, List.forall_mem_append.2 ⟨hothers, hslashes⟩,
    hfront, hempty⟩
  simp only [List.append_assoc]

/-- Nothing in front of a path changes the segment that it ends in, once there is one. -/
theorem EndsIn.below {path segment : List Char} (h : EndsIn path segment) (nonempty : segment ≠ [])
    (directory : List Char) : EndsIn (directory ++ '/' :: path) segment := by
  obtain ⟨hsegment, front, slashes, rfl, hslashes, hfront, -⟩ := h
  refine ⟨hsegment, directory ++ ['/'] ++ front, slashes, ?_, hslashes, fun c hc => ?_,
    fun none => absurd none nonempty⟩
  · simp only [List.append_assoc, List.cons_append, List.nil_append]
  · rw [List.getLast?_append, List.getLast?_concat] at hc
    obtain hc | ⟨-, hc⟩ := Option.or_eq_some_iff.1 hc
    · exact hfront c hc
    · exact (Option.some.inj hc).symm

theorem endsIn_self {segment : List Char} (h : '/' ∉ segment) : EndsIn segment segment :=
  ⟨h, [], [], (List.append_nil _).symm, List.forall_mem_nil _, nofun, fun _ => rfl⟩

/-- Whether a path has a file name: what stands after its last slash, or all of it. -/
inductive HasFileName : List Char → List Char → Prop
  | below {directory name : List Char} (h : '/' ∉ name) :
      HasFileName (directory ++ '/' :: name) name
  | alone {name : List Char} (h : '/' ∉ name) : HasFileName name name

/-- Whether a file name has a stem: what stands before its last dot, or all of it. -/
inductive HasStem : List Char → List Char → Prop
  | dotted {stem extension : List Char} (h : '.' ∉ extension) :
      HasStem (stem ++ '.' :: extension) stem
  | plain {name : List Char} (h : '.' ∉ name) : HasStem name name

theorem exists_last_of_mem {c : Char} {cs : List Char} (h : c ∈ cs) :
    ∃ front back, cs = front ++ c :: back ∧ c ∉ back := by
  obtain ⟨back, front, hcs, hback⟩ := List.eq_append_cons_of_mem (List.mem_reverse.2 h)
  refine ⟨front.reverse, back.reverse, ?_, fun hc => hback (List.mem_reverse.1 hc)⟩
  rw [← List.reverse_reverse cs, hcs]
  simp

theorem exists_hasFileName (path : List Char) : ∃ name, HasFileName path name := by
  by_cases h : '/' ∈ path
  · obtain ⟨directory, name, rfl, hname⟩ := exists_last_of_mem h
    exact ⟨name, .below hname⟩
  · exact ⟨path, .alone h⟩

theorem exists_hasStem (name : List Char) : ∃ stem, HasStem name stem := by
  by_cases h : '.' ∈ name
  · obtain ⟨stem, extension, rfl, hextension⟩ := exists_last_of_mem h
    exact ⟨stem, .dotted hextension⟩
  · exact ⟨name, .plain h⟩

theorem HasFileName.lastSegment_eq {path name : List Char} (h : HasFileName path name) :
    lastSegment path = name := by
  cases h with
  | @below directory name h =>
      have apart : directory ++ '/' :: name = (directory ++ ['/']) ++ name := by simp
      rw [apart, lastSegment_append h (by simp)]
  | alone h =>
      rw [lastSegment, List.takeWhile_eq_self_iff.2 (forall_mem_reverse_bne h),
        List.reverse_reverse]

theorem HasStem.stem_eq {name s : List Char} (h : HasStem name s) : stem name = s := by
  cases h with
  | @dotted s extension h =>
      have backwards : (s ++ '.' :: extension).reverse = extension.reverse ++ '.' :: s.reverse := by
        simp
      rw [stem, backwards, List.dropWhile_append_of_pos (forall_mem_reverse_bne h),
        List.dropWhile_cons_of_neg (by decide)]
      exact List.reverse_reverse s
  | plain h => rw [stem, List.dropWhile_eq_nil_iff.2 (forall_mem_reverse_bne h)]

theorem HasFileName.not_mem_slash {path name : List Char} (h : HasFileName path name) :
    '/' ∉ name := by
  cases h with
  | below h | alone h => exact h

theorem HasStem.subset {name s : List Char} (h : HasStem name s) : s ⊆ name := by
  cases h with
  | dotted _ => exact List.subset_append_left _ _
  | plain _ => exact List.Subset.refl _

end Transcoding.Text
