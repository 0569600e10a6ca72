import SourceTutor.Proofs.FileName
import SourceTutor.Path

/-!
# The parts of a path

A path is its directory, its last component and a silent tail, unless it is silent altogether.
`Path.withExtension` leaves the directory as it is and writes another name into it
(`withExtension_cases`); `Path.parent?` leads to a path above (`above_of_parent?`), from where the
same path is reached by going on.
-/

set_option autoImplicit false

namespace SourceTutor.Path

/-! ## Going up at the start -/

/-- Whether a segment names nothing of its own: it stays or leads upward. -/
def isStep (segment : String) : Bool := isSilent segment || segment == ".."

/-- No segment behind a name leads upward, and none is the name of the root, which is no name
between slashes. -/
def Direct (p : Path) : Prop :=
  ∃ start rest, p.segments = start ++ rest ∧ start.all isStep = true ∧
    ∀ segment ∈ rest, segment ≠ ".." ∧ segment ≠ "/"

theorem step_cases {segment : String} (h : isStep segment = true) :
    segment = "" ∨ segment = "." ∨ segment = ".." := by
  simpa [isStep, isSilent, or_assoc] using h

theorem all_isStep {segments : List String} (h : segments.all isSilent = true) :
    segments.all isStep = true := by
  rw [List.all_eq_true] at h ⊢
  intro segment hsegment
  rw [isStep, h segment hsegment, Bool.true_or]

theorem isStep_eq_false {segment : String} (h : isSilent segment = false)
    (hup : segment ≠ "..") : isStep segment = false := by
  rw [isStep, h, Bool.false_or, beq_eq_false_iff_ne]
  exact hup

/-- Behind a name no segment leads upward, and in front of it are the steps at the start. -/
theorem Direct.split_at {p : Path} (h : p.Direct) {dir more : List String} {name : String}
    (hp : p.segments = dir ++ name :: more) :
    (dir ++ [name]).all isStep = true ∨ ∃ start between, dir = start ++ between ∧
      start.all isStep = true ∧
        ∀ segment ∈ between ++ name :: more, segment ≠ ".." ∧ segment ≠ "/" := by
  obtain ⟨start, rest, hsegments, hstart, hrest⟩ := h
  rw [hp] at hsegments
  rcases List.append_eq_append_iff.mp hsegments with ⟨between, rfl, hmore⟩ | ⟨between, rfl, rfl⟩
  · -- the steps at the start reach up to the name, or beyond it
    cases between with
    | nil =>
        rw [List.nil_append] at hmore
        exact .inr ⟨dir, [], (List.append_nil dir).symm, by simpa using hstart, by
          rw [List.nil_append, hmore]
          exact hrest⟩
    | cons first between =>
        obtain ⟨rfl, rfl⟩ := List.cons.inj hmore
        rw [List.append_cons, List.all_append, Bool.and_eq_true] at hstart
        exact .inl hstart.1
  · exact .inr ⟨start, between, rfl, hstart, hrest⟩

/-- Another name in the same directory. -/
theorem Direct.sibling {p q : Path} (h : p.Direct) {dir more : List String} {name new : String}
    (hp : p.segments = dir ++ name :: more) (hname : isStep name = false)
    (hq : q.segments = dir ++ [new]) (hup : new ≠ "..") (hroot : new ≠ "/") : q.Direct := by
  rcases h.split_at hp with hsteps | ⟨start, between, rfl, hstart, hrest⟩
  · rw [List.all_append, List.all_cons, hname, Bool.false_and, Bool.and_false] at hsteps
    cases hsteps
  · refine ⟨start, between ++ [new], by rw [hq, List.append_assoc], hstart, ?_⟩
    intro segment hsegment
    rw [List.mem_append, List.mem_singleton] at hsegment
    rcases hsegment with hbetween | rfl
    · exact hrest segment (List.mem_append_left _ hbetween)
    · exact ⟨hup, hroot⟩

theorem not_mem_of_mem_splitOn (cs : List Char) {piece : List Char}
    (h : piece ∈ cs.splitOn '/') : '/' ∉ piece := by
  induction cs generalizing piece with
  | nil =>
      rw [List.splitOn_nil, List.mem_singleton] at h
      rw [h]
      exact List.not_mem_nil
  | cons c cs ih =>
      rw [List.splitOn_cons_eq_if_modifyHead] at h
      by_cases hc : c = '/'
      · rw [if_pos (by simpa using hc), List.mem_cons] at h
        rcases h with rfl | h
        · exact List.not_mem_nil
        · exact ih h
      · rw [if_neg (by simpa using hc)] at h
        obtain ⟨first, rest, hsplit⟩ :=
          List.exists_cons_of_ne_nil (List.splitOn_ne_nil '/' cs)
        rw [hsplit, List.modifyHead_cons, List.mem_cons] at h
        rcases h with rfl | h
        · have hfirst : '/' ∉ first := ih (by rw [hsplit]; exact List.mem_cons_self ..)
          simpa [Ne.symm hc] using hfirst
        · exact ih (by rw [hsplit]; exact List.mem_cons_of_mem _ h)

/-- No segment of a path that is read from a text has a slash. -/
theorem not_mem_of_mem_ofString {s segment : String} (h : segment ∈ (ofString s).segments) :
    '/' ∉ segment.toList := by
  obtain ⟨piece, hpiece, rfl⟩ := List.mem_map.mp h
  rw [String.toList_ofList]
  exact not_mem_of_mem_splitOn _ hpiece

/-- The text of a path that is read from a text. -/
@[simp] theorem toString_ofString (s : String) : (ofString s).toString = s := by
  have hpieces : (ofString s).segments.map String.toList = s.toList.splitOn '/' := by
    simp [ofString, Function.comp_def]
  -- the segments are text, since they have no slashes
  have hread : (ofString s).segments.map FileName.text = (ofString s).segments.map id :=
    List.map_congr_left fun segment h => FileName.text_of_not_mem (not_mem_of_mem_ofString h)
  refine String.toList_injective ?_
  rw [toString, hread, List.map_id, String.toList_intercalate, hpieces]
  exact List.intercalate_splitOn '/'

/-- A text without slashes is a single segment. -/
theorem ofString_of_not_mem {s : String} (h : '/' ∉ s.toList) : ofString s = ⟨[s]⟩ := by
  rw [ofString, List.splitOn_eq_singleton h, List.map_singleton, String.ofList_toList]

/-- An ending without slashes ends the last piece. -/
theorem splitOn_append (cs : List Char) {ending : List Char} (h : '/' ∉ ending) :
    ∃ front last, (cs ++ ending).splitOn '/' = front ++ [last ++ ending] := by
  induction cs with
  | nil => exact ⟨[], [], List.splitOn_eq_singleton h⟩
  | cons c cs ih =>
      obtain ⟨front, last, hsplit⟩ := ih
      rw [List.cons_append, List.splitOn_cons_eq_if_modifyHead, hsplit]
      by_cases hc : c = '/'
      · rw [if_pos (by simpa using hc)]
        exact ⟨[] :: front, last, rfl⟩
      · rw [if_neg (by simpa using hc)]
        cases front with
        | nil => exact ⟨[], c :: last, rfl⟩
        | cons first front => exact ⟨(c :: first) :: front, last, rfl⟩

/-- An ending without slashes ends the last segment. -/
theorem segments_ofString_append (s : String) {ending : String} (h : '/' ∉ ending.toList) :
    ∃ front last, (ofString (s ++ ending)).segments = front ++ [last ++ ending] := by
  obtain ⟨front, last, hsplit⟩ := splitOn_append s.toList h
  refine ⟨front.map String.ofList, String.ofList last, ?_⟩
  rw [ofString, String.toList_append, hsplit, List.map_append, List.map_singleton,
    String.ofList_append, String.ofList_toList]

/-- An ending without slashes ends the last segment of a path further down. -/
theorem segments_child_append (p : Path) (s : String) {ending : String}
    (h : '/' ∉ ending.toList) :
    ∃ front last, (p.child (s ++ ending)).segments = front ++ [last ++ ending] := by
  obtain ⟨front, last, hsegments⟩ := segments_ofString_append s h
  rw [child, join]
  split
  · exact ⟨front, last, hsegments⟩
  split
  · exact ⟨p.segments.dropLast ++ front, last, by rw [hsegments, List.append_assoc]⟩
  · exact ⟨p.segments ++ front, last, by rw [hsegments, List.append_assoc]⟩

/-- A path that is read from a text is direct if it goes up at its start only. -/
theorem direct_ofString {s : String} {start rest : List String}
    (hp : (ofString s).segments = start ++ rest) (hstart : start.all isStep = true)
    (hrest : ".." ∉ rest) : (ofString s).Direct := by
  refine ⟨start, rest, hp, hstart, fun segment hsegment => ⟨?_, ?_⟩⟩
  · rintro rfl
    exact hrest hsegment
  · rintro rfl
    have hmem : "/" ∈ (ofString s).segments := by
      rw [hp]
      exact List.mem_append_right _ hsegment
    exact not_mem_of_mem_ofString hmem (by decide)

/-! ## Start, body and silent tail -/

theorem split_append (p : Path) : p.split.1 ++ p.split.2 = p.segments := by
  rw [split]
  split <;> simp_all

theorem all_isSilent_split (p : Path) : p.split.1.all isSilent = true := by
  rw [split]
  split <;> simp [isSilent]

theorem trimSilent_append (segments : List String) :
    ∃ tail, segments = trimSilent segments ++ tail ∧ tail.all isSilent = true := by
  refine ⟨(segments.reverse.takeWhile isSilent).reverse, ?_, ?_⟩
  · rw [trimSilent, ← List.reverse_append, List.takeWhile_append_dropWhile, List.reverse_reverse]
  · rw [List.all_reverse]
    exact List.all_takeWhile

theorem trimSilent_eq_concat {segments body : List String} {last : String}
    (h : trimSilent segments = body ++ [last]) : isSilent last = false := by
  have hhead : (segments.reverse.dropWhile isSilent).head? = some last := by
    rw [← List.getLast?_reverse, ← trimSilent, h]
    simp
  have := List.head?_dropWhile_not isSilent segments.reverse
  rw [hhead] at this
  exact this

/-- The body of a path has a last component, unless the path is silent altogether. -/
theorem parts (p : Path) :
    (trimSilent p.split.2 = [] ∧ p.segments.all isSilent = true) ∨
      ∃ body last tail, trimSilent p.split.2 = body ++ [last] ∧ isSilent last = false ∧
        tail.all isSilent = true ∧ p.segments = (p.split.1 ++ body) ++ last :: tail := by
  obtain ⟨tail, hrest, htail⟩ := trimSilent_append p.split.2
  by_cases hbody : trimSilent p.split.2 = []
  · refine .inl ⟨hbody, ?_⟩
    rw [← p.split_append, List.all_append, p.all_isSilent_split, hrest, hbody, List.nil_append,
      htail]
    rfl
  · have hconcat := List.dropLast_concat_getLast hbody
    refine .inr ⟨(trimSilent p.split.2).dropLast, (trimSilent p.split.2).getLast hbody, tail,
      hconcat.symm, trimSilent_eq_concat hconcat.symm, htail, ?_⟩
    rw [← p.split_append, List.append_assoc]
    congr 1
    rw [List.append_cons, hconcat, ← hrest]

theorem segments_assemble {start body : List String} {last : String}
    (hlast : isSilent last = false) :
    (assemble start (body ++ [last])).segments = start ++ body ++ [last] := by
  have hne : last ≠ "" := by
    rintro rfl
    cases hlast
  rw [assemble, List.append_assoc]
  split
  · rename_i h
    simp at h
  · rename_i h
    rw [← List.append_assoc, List.append_eq_singleton_iff] at h
    rcases h with ⟨_, h⟩ | ⟨_, h⟩
    · exact absurd (List.singleton_inj.mp h) hne
    · cases h
  · rfl

theorem isAbsolute_iff (p : Path) :
    p.isAbsolute = true ↔ ∃ next rest, p.segments = "" :: next :: rest := by
  rw [isAbsolute]
  split
  · rename_i next rest h
    exact ⟨fun _ => ⟨next, rest, h⟩, fun _ => rfl⟩
  · rename_i h
    refine ⟨nofun, ?_⟩
    rintro ⟨next, rest, hp⟩
    exact absurd hp (h next rest)

theorem isAbsolute_singleton (segment : String) : (⟨[segment]⟩ : Path).isAbsolute = false := by
  rw [Bool.eq_false_iff, ne_eq, isAbsolute_iff]
  simp

theorem isAbsolute_cons_cons (first second : String) (rest : List String) :
    (⟨first :: second :: rest⟩ : Path).isAbsolute = (first == "") := by
  rw [Bool.eq_iff_iff, isAbsolute_iff, beq_iff_eq]
  simp

/-- Whether a path is absolute depends on what stands in front of its last component. -/
theorem isAbsolute_congr {p q : Path} {dir more more' : List String} {last last' : String}
    (hp : p.segments = dir ++ last :: more) (hq : q.segments = dir ++ last' :: more')
    (hlast : isSilent last = false) (hlast' : isSilent last' = false) :
    p.isAbsolute = q.isAbsolute := by
  have hne : last ≠ "" := by
    rintro rfl
    cases hlast
  have hne' : last' ≠ "" := by
    rintro rfl
    cases hlast'
  rw [Bool.eq_iff_iff, isAbsolute_iff, isAbsolute_iff, hp, hq]
  match dir with
  | [] => simp [hne, hne']
  | [first] => simp
  | first :: second :: rest => simp

/-! ## Another extension -/

theorem toList_append_dot (stem extension : String) :
    (stem ++ "." ++ extension).toList = stem.toList ++ '.' :: extension.toList := by
  simp

/-- A text has one last dot. -/
theorem append_dot_inj {stem stem' extension extension' : String} (h : '.' ∉ extension.toList)
    (h' : '.' ∉ extension'.toList) (heq : stem ++ "." ++ extension = stem' ++ "." ++ extension') :
    stem = stem' ∧ extension = extension' := by
  have htext := congrArg String.toList heq
  rw [toList_append_dot, toList_append_dot] at htext
  -- if one stem were longer, the other extension would have a dot
  have hshort : ∀ {s s' e e' : List Char}, '.' ∉ e' → s ++ '.' :: e = s' ++ '.' :: e' →
      s.length ≤ s'.length := by
    intro s s' e e' hdot hs
    rcases List.append_eq_append_iff.mp hs with ⟨more, rfl, -⟩ | ⟨more, rfl, hrest⟩
    · rw [List.length_append]
      exact Nat.le_add_right _ _
    · cases more with
      | nil => simp
      | cons c more =>
          rw [(List.cons.inj hrest).2] at hdot
          simp at hdot
  have hlength : stem.toList.length = stem'.toList.length :=
    Nat.le_antisymm (hshort h' htext) (hshort h htext.symm)
  obtain ⟨hstem, htail⟩ := List.append_inj htext hlength
  exact ⟨String.toList_injective hstem, String.toList_injective (List.cons.inj htail).2⟩

/-- A name is cut at its last dot. -/
theorem cutName_append_dot {stem extension : String} (hstem : stem ≠ "")
    (hdot : '.' ∉ extension.toList) :
    cutName (stem ++ "." ++ extension) = (stem, some extension) := by
  have hreverse : (stem ++ "." ++ extension).toList.reverse =
      extension.toList.reverse ++ '.' :: stem.toList.reverse := by
    rw [toList_append_dot, List.reverse_append, List.reverse_cons, List.append_assoc,
      List.singleton_append]
  have hafter : ∀ c ∈ extension.toList.reverse, (c != '.') = true := by
    intro c hc
    rw [bne_iff_ne]
    rintro rfl
    exact hdot (List.mem_reverse.mp hc)
  have hbefore : stem.toList.reverse ≠ [] := by simpa using hstem
  rw [cutName, hreverse, List.dropWhile_append_of_pos hafter, List.takeWhile_append_of_pos hafter]
  obtain ⟨c, cs, hcons⟩ := List.exists_cons_of_ne_nil hbefore
  simp only [hcons, List.dropWhile_cons, List.takeWhile_cons, bne_self_eq_false, Bool.false_eq_true,
    if_false, List.append_nil, List.reverse_reverse, String.ofList_toList]
  rw [← hcons, List.reverse_reverse, String.ofList_toList]

/-- What a name is cut into. -/
theorem cutName_eq_some {name stem extension : String}
    (h : cutName name = (stem, some extension)) :
    name = stem ++ "." ++ extension ∧ '.' ∉ extension.toList ∧ stem ≠ "" := by
  rw [cutName] at h
  split at h
  · cases h
  · cases h
  next c before hbefore hdrop =>
    obtain ⟨rfl, hextension⟩ := Prod.mk.inj h
    obtain rfl := Option.some.inj hextension
    obtain rfl : c = '.' := by
      have hhead := List.head?_dropWhile_not (· != '.') name.toList.reverse
      rw [hdrop] at hhead
      simpa using hhead
    refine ⟨String.toList_injective ?_, ?_, ?_⟩
    · rw [toList_append_dot, String.toList_ofList, String.toList_ofList,
        ← List.reverse_inj, List.reverse_append, List.reverse_cons, List.reverse_reverse,
        List.reverse_reverse, List.append_assoc, List.singleton_append, ← hdrop,
        List.takeWhile_append_dropWhile]
    · rw [String.toList_ofList, List.mem_reverse]
      intro hmem
      simpa using List.all_eq_true.mp List.all_takeWhile _ hmem
    · intro hempty
      have hnil := congrArg String.toList hempty
      rw [String.toList_ofList] at hnil
      exact hbefore (List.reverse_eq_nil_iff.mp hnil)

/-- A name keeps its own extension apart from a new one that has a dot in it. -/
theorem cutName_append_ne (name : String) {extension : String}
    (hdot : '.' ∈ extension.toList) : (cutName name).1 ++ "." ++ extension ≠ name := by
  intro h
  have htext := congrArg String.toList h
  rw [toList_append_dot, cutName] at htext
  have hname : name.toList = (name.toList.reverse.dropWhile (· != '.')).reverse ++
      (name.toList.reverse.takeWhile (· != '.')).reverse := by
    rw [← List.reverse_append, List.takeWhile_append_dropWhile, List.reverse_reverse]
  split at htext
  · simp at htext
  · simp at htext
  · rename_i c before _ hdrop
    rw [hdrop, List.reverse_cons, List.append_assoc, List.singleton_append] at hname
    rw [hname, String.toList_ofList, List.append_cancel_left_eq] at htext
    have hext := (List.cons.inj htext).2
    rw [hext, List.mem_reverse] at hdot
    simpa using List.all_eq_true.mp List.all_takeWhile _ hdot

/-- The name with another extension is a name of its own. -/
theorem isSilent_append_dot (stem : String) {extension : String}
    (h : 1 < extension.toList.length) :
    isSilent (stem ++ "." ++ extension) = false ∧ stem ++ "." ++ extension ≠ ".." ∧
      stem ++ "." ++ extension ≠ "/" := by
  have hlength : 2 < (stem ++ "." ++ extension).toList.length := by
    rw [toList_append_dot, List.length_append, List.length_cons]
    omega
  have hne : ∀ short : String, short.toList.length ≤ 2 → stem ++ "." ++ extension ≠ short := by
    rintro short hshort rfl
    omega
  refine ⟨?_, hne _ (by decide), hne _ (by decide)⟩
  simp only [isSilent, Bool.or_eq_false_iff, beq_eq_false_iff_ne]
  exact ⟨hne _ (by decide), hne _ (by decide)⟩

/-- The first half of a name that is cut is not empty, and has no letters but those of the name. -/
theorem cutName_fst {name : String} (hname : name ≠ "") :
    (cutName name).1 ≠ "" ∧ ∀ c ∈ (cutName name).1.toList, c ∈ name.toList := by
  rw [cutName]
  split
  · exact ⟨hname, fun c hc => hc⟩
  · exact ⟨hname, fun c hc => hc⟩
  · rename_i c before hshort hdrop
    have hbefore : before ≠ [] := by
      rintro rfl
      exact hshort rfl
    refine ⟨fun h => hbefore ?_, fun c hc => ?_⟩
    · have htext := congrArg String.toList h
      simpa using htext
    · rw [String.toList_ofList, List.mem_reverse] at hc
      have hsub := (List.dropWhile_sublist (fun c => c != '.') (l := name.toList.reverse)).subset
      rw [hdrop] at hsub
      exact List.mem_reverse.mp (hsub (List.mem_cons_of_mem _ hc))

/-- A stem is not empty, and belongs to one of the segments. -/
theorem stem?_eq_some {p : Path} {stem : String} (h : p.stem? = some stem) :
    stem ≠ "" ∧ ∃ segment ∈ p.segments, ∀ c ∈ stem.toList, c ∈ segment.toList := by
  obtain ⟨name, hfile, rfl⟩ := Option.map_eq_some_iff.mp h
  rcases p.parts with ⟨hbody, _⟩ | ⟨body, last, tail, hbody, hlast, _, hsegments⟩
  · simp [fileName?, hbody] at hfile
  · have hname : last = name := by
      simp only [fileName?, hbody, List.getLast?_concat] at hfile
      split at hfile
      · cases hfile
      · exact Option.some.inj hfile
    subst hname
    have hne : last ≠ "" := by
      rintro rfl
      cases hlast
    have hcut := cutName_fst hne
    exact ⟨hcut.1, last, by rw [hsegments]; simp, hcut.2⟩

/-- A path that names nothing stays as it is; in any other one the extension is put behind the stem
of the last component, and a silent tail is lost. -/
theorem withExtension_cases (p : Path) (hp : p.Direct) (extension : String)
    (hext : 1 < extension.toList.length) :
    (p.segments.all isStep = true ∧ p.withExtension extension = p) ∨
      ∃ dir last tail, isStep last = false ∧ tail.all isSilent = true ∧
        p.segments = dir ++ last :: tail ∧
        (p.withExtension extension).segments = dir ++ [(cutName last).1 ++ "." ++ extension] := by
  rcases p.parts with ⟨hbody, hsilent⟩ | ⟨body, last, tail, hbody, hlast, htail, hsegments⟩
  · refine .inl ⟨all_isStep hsilent, ?_⟩
    have hstem : p.stem? = none := by simp [stem?, fileName?, hbody]
    rw [withExtension, hstem]
  by_cases hup : last = ".."
  · -- a way up at the end is no way up behind a name, so that the path is made of steps
    subst hup
    refine .inl ⟨?_, ?_⟩
    · rcases hp.split_at hsegments with hsteps | ⟨_, between, _, _, hrest⟩
      · rw [hsegments, List.append_cons, List.all_append, hsteps, all_isStep htail]
        rfl
      · exact absurd rfl (hrest ".." (by simp)).1
    · have hstem : p.stem? = none := by simp [stem?, fileName?, hbody]
      rw [withExtension, hstem]
  · refine .inr ⟨_, last, tail, isStep_eq_false hlast hup, htail, hsegments, ?_⟩
    have hstem : p.stem? = some (cutName last).1 := by
      simp only [stem?, fileName?, hbody, List.getLast?_concat]
      split
      · rename_i h
        exact absurd (Option.some.inj h) hup
      · rfl
    rw [withExtension, hstem]
    simp only [hbody, List.dropLast_concat]
    exact segments_assemble (isSilent_append_dot _ hext).1

/-! ## The way up -/

/-- The path above names something on the way to the other path, or nothing at all. -/
def Above (a p : Path) : Prop :=
  a.segments.all isSilent = true ∨
    ∃ dir last more, isSilent last = false ∧ a.segments = dir ++ [last] ∧
      p.segments = dir ++ last :: more ∧ ∃ segment ∈ more, isSilent segment = false

theorem above_of_parent? {p a : Path} (h : p.parent? = some a) : Above a p := by
  rw [parent?] at h
  rcases p.parts with ⟨hbody, hsilent⟩ | ⟨body, last, tail, hbody, hlast, htail, hsegments⟩
  · simp only [hbody] at h
    split at h
    · cases h
      exact .inl (by decide)
    · cases h
  · have ha : assemble p.split.1 (trimSilent body) = a := by
      obtain ⟨first, rest, hcons⟩ : ∃ first rest, body ++ [last] = first :: rest := by
        cases body with
        | nil => exact ⟨_, _, rfl⟩
        | cons first rest => exact ⟨_, _, rfl⟩
      simp only [hbody, hcons] at h
      rw [← hcons, List.dropLast_concat] at h
      exact Option.some.inj h
    obtain ⟨quiet, hquiet, _⟩ := trimSilent_append body
    by_cases hnil : trimSilent body = []
    · left
      rw [← ha, hnil, assemble, List.append_nil]
      split
      · decide
      · decide
      · exact p.all_isSilent_split
    · right
      obtain ⟨dir, above, hconcat⟩ : ∃ dir above, trimSilent body = dir ++ [above] :=
        ⟨_, _, (List.dropLast_concat_getLast hnil).symm⟩
      have hnamed := trimSilent_eq_concat hconcat
      refine ⟨p.split.1 ++ dir, above, quiet ++ last :: tail, hnamed, ?_, ?_, last, by simp,
        hlast⟩
      · rw [← ha, hconcat, segments_assemble hnamed]
      · rw [hsegments, hquiet, hconcat]
        simp

theorem Above.trans {a b p : Path} (h : Above b a) (h' : Above a p) : Above b p := by
  rcases h with h | ⟨dir, last, more, hlast, hb, ha, segment, hmem, hsegment⟩
  · exact .inl h
  · rcases h' with h' | ⟨dir', last', more', hlast', ha', hp, segment', hmem', hsegment'⟩
    · rw [ha, List.all_append, List.all_cons, hlast] at h'
      simp at h'
    · refine .inr ⟨dir, last, more ++ more', hlast, hb, ?_, segment', by simp [hmem'], hsegment'⟩
      rw [hp, List.append_cons, ← ha', ha]
      simp

end SourceTutor.Path
