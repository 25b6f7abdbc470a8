import ContainerBuild.Path
import ContainerBuild.Proofs.Text.Splitting

/-!
# Components of joined paths

The components of a path are its lead, which is the root or a leading dot if it has one, followed
by what its segments stand for. Joining a relative path adds the components that its segments stand
for and leaves the lead, so a join never leaves the path that it starts from.

* `Path.stem` — what is written in front of a relative path that is joined.
* `Path.components_join` — the components of a join.
* `Path.join_assoc` — relative paths can be joined in any grouping.
* `Path.components_ofComponents` — the beginnings of a path's components are written as paths with
  these components.
-/

namespace ContainerBuild.Path

/-- What a path starts with: the root, a dot, or nothing. -/
def lead (p : Path) : List Component :=
  if p.isAbsolute then [.root] else if p.segments.head? = some dot then [.current] else []

/-- What the segments of a path stand for, apart from its lead. -/
def inner (p : Path) : List Component := body p.segments

theorem components_eq (p : Path) : p.components = p.lead ++ p.inner := by
  unfold components lead inner
  split
  · rfl
  · split <;> rfl

/-- No segment of a path has a slash. -/
theorem slash_notMem_of_mem_segments {p : Path} {segment : Bytes} (h : segment ∈ p.segments) :
    slash ∉ segment := Text.notMem_of_mem_splitOn h

/-- A path is written with its segments. -/
theorem bytes_eq_intercalate (p : Path) : p.bytes = [slash].intercalate p.segments :=
  (List.intercalate_splitOn slash).symm

theorem body_append (before after : List Bytes) :
    body (before ++ after) = body before ++ body after :=
  List.filterMap_append

/-- A text spells an absolute path exactly if it starts with a slash. -/
theorem isAbsolute_ofString_iff (s : String) :
    (ofString s).isAbsolute = true ↔ s.toList.head? = some '/' := by
  show (Utf8.encode s).head? == some slash ↔ _
  unfold Utf8.encode
  cases s.toList with
  | nil => simp
  | cons c rest =>
    obtain ⟨b, bytes, hbytes⟩ := List.exists_cons_of_ne_nil (String.utf8EncodeChar_ne_nil (c := c))
    simp only [List.flatMap_cons, hbytes, List.cons_append, List.head?_cons, beq_iff_eq,
      Option.some.injEq]
    constructor
    · rintro rfl
      -- the slash's byte is in no other character
      have hmem : slash ∈ String.utf8EncodeChar c := by rw [hbytes]; exact List.mem_cons_self
      exact ((Utf8.mem_encodeChar_iff (a := '/') (by decide) c).1 hmem).symm
    · rintro rfl
      have hslash : String.utf8EncodeChar '/' = [slash] := by decide
      rw [hslash] at hbytes
      exact (List.cons.inj hbytes).1.symm

/-! ### Joining -/

/-- What is written in front of a relative path that is joined. -/
def stem (p : Path) : Bytes :=
  if p.bytes.isEmpty || p.bytes.getLast? == some slash then p.bytes else p.bytes ++ [slash]

theorem join_eq (p : Path) {q : Path} (hq : q.isAbsolute = false) :
    p.join q = ⟨p.stem ++ q.bytes⟩ := by
  unfold join stem
  rw [if_neg (by simp [hq])]
  split <;> simp

/-- A path that is not empty gets a slash at its end, unless it has one. -/
theorem stem_cases (p : Path) :
    p.bytes = [] ∧ p.stem = [] ∨
      ∃ before, p.stem = before ++ [slash] ∧
        (p.bytes = before ∧ before ≠ [] ∨ p.bytes = before ++ [slash]) := by
  by_cases hp : p.bytes = []
  · exact .inl ⟨hp, by simp [stem, hp]⟩
  · right
    by_cases hlast : p.bytes.getLast? = some slash
    · obtain ⟨before, hbefore⟩ := List.getLast?_eq_some_iff.1 hlast
      exact ⟨before, by simp [stem, hbefore], .inr hbefore⟩
    · exact ⟨p.bytes, by simp [stem, hp, hlast], .inl ⟨rfl, hp⟩⟩

/-- What is written in front of a relative path adds up. -/
theorem stem_join (p : Path) {q : Path} (hq : q.isAbsolute = false) :
    (p.join q).stem = p.stem ++ q.stem := by
  rw [join_eq p hq]
  by_cases hempty : q.bytes = []
  · -- nothing is added, and what is in front of it is empty or ends with a slash
    have hstop : p.stem = [] ∨ p.stem.getLast? = some slash := by
      rcases p.stem_cases with ⟨-, hp⟩ | ⟨before, hp, -⟩
      · exact .inl hp
      · exact .inr (by simp [hp])
    have hq : q.stem = [] := by simp [stem, hempty]
    rw [hq, hempty, List.append_nil]
    exact if_pos (by simpa using hstop)
  · -- the last byte is that of the path behind
    have hlast : (p.stem ++ q.bytes).getLast? = q.bytes.getLast? := by
      rw [List.getLast?_append, List.getLast?_eq_some_getLast hempty, Option.some_or]
    by_cases hslash : q.bytes.getLast? = some slash
    · have hq : q.stem = q.bytes := by simp [stem, hslash]
      rw [hq]
      exact if_pos (by simp [hlast, hslash])
    · have hq : q.stem = q.bytes ++ [slash] := by simp [stem, hempty, hslash]
      rw [hq, ← List.append_assoc]
      exact if_neg (by rw [hlast]; simp [hempty, hslash])

/-- Relative paths can be joined in any grouping. -/
theorem join_assoc (p : Path) {q r : Path} (hq : q.isAbsolute = false)
    (hr : r.isAbsolute = false) (hqr : (q.join r).isAbsolute = false) :
    (p.join q).join r = p.join (q.join r) := by
  rw [join_eq _ hr, join_eq p hqr, stem_join p hq, join_eq q hr, List.append_assoc]

/-- The segments of a join stand for what those of its parts stand for. -/
theorem inner_join (p : Path) {q : Path} (hq : q.isAbsolute = false) :
    (p.join q).inner = p.inner ++ q.inner := by
  rw [join_eq p hq]
  unfold inner segments
  rcases p.stem_cases with ⟨hp, hstem⟩ | ⟨before, hstem, ⟨hp, -⟩ | hp⟩
  · rw [hp, hstem]
    rfl
  · rw [hp, hstem, List.append_assoc, List.singleton_append, List.splitOn_append_cons_self,
      body_append]
  · rw [hp, hstem, List.append_assoc, List.singleton_append, List.splitOn_append_cons_self,
      body_append, List.splitOn_append_cons_self, List.splitOn_nil, body_append]
    -- the empty segment behind the last slash stands for nothing
    simp [body, component?]

/-- The first byte of a join is that of the path in front. -/
theorem isAbsolute_join (p : Path) {q : Path} (hq : q.isAbsolute = false) :
    (p.join q).isAbsolute = p.isAbsolute := by
  rw [join_eq p hq]
  rcases p.stem_cases with ⟨hp, hstem⟩ | ⟨before, hstem, ⟨hp, hne⟩ | hp⟩
  · simpa [isAbsolute, hp, hstem] using hq
  · simp [isAbsolute, hp, hstem, List.head?_append, List.head?_eq_some_head hne]
  · simp [isAbsolute, hp, hstem, List.head?_append]

/-- A join starts as the path in front does, unless that one is empty. -/
theorem lead_join {p q : Path} (hp : p.bytes ≠ []) (hq : q.isAbsolute = false) :
    (p.join q).lead = p.lead := by
  -- the first segment of the path in front is the first of the join
  have hhead : (p.join q).segments.head? = p.segments.head? := by
    rw [join_eq p hq]
    unfold segments
    rcases p.stem_cases with ⟨hempty, -⟩ | ⟨before, hstem, ⟨hbytes, -⟩ | hbytes⟩
    · exact absurd hempty hp
    all_goals
      obtain ⟨first, rest, hfirst⟩ := List.exists_cons_of_ne_nil (List.splitOn_ne_nil slash before)
      rw [hbytes, hstem, List.append_assoc, List.singleton_append, List.splitOn_append_cons_self]
      simp [hfirst, List.splitOn_append_cons_self]
  unfold lead
  rw [isAbsolute_join p hq, hhead]

/-- Joining a relative path to one that is not empty adds what its segments stand for. -/
theorem components_join {p q : Path} (hp : p.bytes ≠ []) (hq : q.isAbsolute = false) :
    (p.join q).components = p.components ++ q.inner := by
  rw [components_eq, components_eq, lead_join hp hq, inner_join p hq, List.append_assoc]

/-- A relative path seen from an empty one is itself. -/
theorem empty_join (q : Path) : (⟨[]⟩ : Path).join q = q := by
  unfold join
  split <;> rfl

/-- Joining a path without a lead adds its components. -/
theorem components_join_of_lead (p : Path) {q : Path} (hq : q.isAbsolute = false)
    (hlead : q.lead = []) : (p.join q).components = p.components ++ q.components := by
  have hinner : q.components = q.inner := by rw [components_eq, hlead, List.nil_append]
  by_cases hp : p.bytes = []
  · obtain ⟨bytes⟩ := p
    subst hp
    rw [empty_join]
    rfl
  · rw [components_join hp hq, hinner]

/-- A join of a relative path stays below the path in front. -/
theorem components_prefix_join (p : Path) {q : Path} (hq : q.isAbsolute = false) :
    p.components <+: (p.join q).components := by
  by_cases hp : p.bytes = []
  · obtain ⟨bytes⟩ := p
    subst hp
    exact List.nil_prefix
  · rw [components_join hp hq]
    exact List.prefix_append ..

/-- Joined parts stand for what each of them stands for. -/
theorem inner_joinAll (p : Path) {parts : List Path}
    (hparts : ∀ part ∈ parts, part.isAbsolute = false) :
    (p.joinAll parts).inner = p.inner ++ parts.flatMap inner := by
  induction parts generalizing p with
  | nil => simp [joinAll]
  | cons part rest ih =>
    rw [List.forall_mem_cons] at hparts
    calc (p.joinAll (part :: rest)).inner
        = (p.join part).inner ++ rest.flatMap inner := ih (p.join part) hparts.2
      _ = p.inner ++ (part :: rest).flatMap inner := by
        rw [inner_join p hparts.1, List.append_assoc, List.flatMap_cons]

/-- Joining relative parts to a path that is not empty adds what they stand for. -/
theorem components_joinAll {p : Path} (hp : p.bytes ≠ []) {parts : List Path}
    (hparts : ∀ part ∈ parts, part.isAbsolute = false) :
    (p.joinAll parts).components = p.components ++ parts.flatMap inner := by
  induction parts generalizing p with
  | nil => simp [joinAll]
  | cons part rest ih =>
    rw [List.forall_mem_cons] at hparts
    have hne : (p.join part).bytes ≠ [] := by
      rcases p.stem_cases with ⟨hempty, -⟩ | ⟨before, hstem, -⟩
      · exact absurd hempty hp
      · simp [join_eq p hparts.1, hstem]
    calc (p.joinAll (part :: rest)).components
        = (p.join part).components ++ rest.flatMap inner := ih hne hparts.2
      _ = p.components ++ (part :: rest).flatMap inner := by
        rw [components_join hp hparts.1, List.append_assoc, List.flatMap_cons]

/-! ### Writing components -/

/-- A component that may stand behind others: two dots, or a name that is a segment of its own. -/
def Component.IsInner : Component → Prop
  | parent => True
  | normal name => name ≠ [] ∧ name ≠ dot ∧ name ≠ dots ∧ slash ∉ name
  | _ => False

/-- What segments stand for may stand behind other components. -/
theorem isInner_of_mem_inner {p : Path} {c : Component} (hc : c ∈ p.inner) : c.IsInner := by
  simp only [inner, body, List.mem_filterMap] at hc
  obtain ⟨segment, hmem, hc⟩ := hc
  have hslash : slash ∉ segment := slash_notMem_of_mem_segments hmem
  unfold component? at hc
  split at hc
  · cases hc
  next hidle =>
    obtain ⟨hempty, hdot⟩ := not_or.1 hidle
    split at hc
    · cases hc
      trivial
    next hdots =>
      cases hc
      exact ⟨hempty, hdot, hdots, hslash⟩

/-- The inner components are those that are neither the root nor a leading dot. -/
theorem inner_eq_filter (p : Path) :
    p.inner = p.components.filter fun c => c != .root && c != .current := by
  have hlead : p.lead.filter (fun c => c != .root && c != .current) = [] := by
    unfold lead
    split
    · rfl
    · split <;> rfl
  have hinner : p.inner.filter (fun c => c != .root && c != .current) = p.inner := by
    rw [List.filter_eq_self]
    intro c hc
    have hc := isInner_of_mem_inner hc
    cases c <;> simp_all [Component.IsInner]
  rw [components_eq, List.filter_append, hlead, hinner, List.nil_append]

/-- A path is absolute exactly if its components start at the root. -/
theorem isAbsolute_iff (p : Path) :
    p.isAbsolute = true ↔ p.components.head? = some .root := by
  unfold components
  split
  next h => simp [h]
  next h =>
    split
    · simp [h]
    · have hroot : Component.root ∉ body p.segments := fun hroot =>
        isInner_of_mem_inner (p := p) hroot
      have hhead : (body p.segments).head? ≠ some .root := fun hhead =>
        hroot (List.mem_of_head? hhead)
      simp [h, hhead]

/-- A component that may stand behind others is written as a relative path that has only this
component. -/
theorem inner_bytes {c : Component} (hc : c.IsInner) :
    (⟨c.bytes⟩ : Path).isAbsolute = false ∧ (⟨c.bytes⟩ : Path).lead = [] ∧
      (⟨c.bytes⟩ : Path).inner = [c] := by
  cases c with
  | root => cases hc
  | current => cases hc
  | parent => decide
  | normal name =>
    obtain ⟨hempty, hdot, hdots, hslash⟩ := hc
    have hsegments : (⟨name⟩ : Path).segments = [name] := List.splitOn_eq_singleton hslash
    have hrelative : (⟨name⟩ : Path).isAbsolute = false := by
      have hhead : name.head? ≠ some slash := fun hhead => hslash (List.mem_of_head? hhead)
      simpa [isAbsolute] using hhead
    refine ⟨hrelative, ?_, ?_⟩
    · simp [lead, Component.bytes, hrelative, hsegments, hdot]
    · simp [inner, Component.bytes, hsegments, body, component?, hempty, hdot, hdots]

/-- A path has a zero byte only in a name. -/
theorem zero_mem_bytes_iff {p : Path} :
    0 ∈ p.bytes ↔ ∃ name, Component.normal name ∈ p.inner ∧ 0 ∈ name := by
  rw [bytes_eq_intercalate p, Text.mem_intercalate_iff (by decide)]
  simp only [inner, body, List.mem_filterMap]
  constructor
  · rintro ⟨segment, hsegment, hzero⟩
    -- the segments that stand for something else have no zero byte
    have hempty : segment ≠ [] := by rintro rfl; cases hzero
    have hdot : segment ≠ dot := by rintro rfl; revert hzero; decide
    have hdots : segment ≠ dots := by rintro rfl; revert hzero; decide
    exact ⟨segment, ⟨segment, hsegment, by simp [component?, hempty, hdot, hdots]⟩, hzero⟩
  · rintro ⟨name, ⟨segment, hsegment, hname⟩, hzero⟩
    unfold component? at hname
    split at hname
    · cases hname
    · split at hname
      · cases hname
      · cases hname
        exact ⟨name, hsegment, hzero⟩

/-- A name that is joined is the last segment. -/
theorem segments_join_name (p : Path) {name : Bytes} (hname : (Component.normal name).IsInner) :
    (p.join ⟨name⟩).segments.filter (· != []) = p.segments.filter (· != []) ++ [name] := by
  have hrelative : (⟨name⟩ : Path).isAbsolute = false := (inner_bytes hname).1
  obtain ⟨hempty, -, -, hslash⟩ := hname
  have hsegments : name.splitOn slash = [name] := List.splitOn_eq_singleton hslash
  rw [join_eq p hrelative]
  unfold segments
  rcases p.stem_cases with ⟨hp, hstem⟩ | ⟨before, hstem, ⟨hp, -⟩ | hp⟩
  · simp [hp, hstem, hsegments, hempty]
  · rw [hp, hstem, List.append_assoc, List.singleton_append, List.splitOn_append_cons_self,
      hsegments]
    simp [hempty]
  · rw [hp, hstem, List.append_assoc, List.singleton_append, List.splitOn_append_cons_self,
      hsegments, List.splitOn_append_cons_self, List.splitOn_nil]
    simp [hempty]

/-- Every component but the first may stand behind others, and the first is written as a path that
has only this component. -/
theorem components_cases (p : Path) :
    p.components = [] ∨ ∃ c rest, p.components = c :: rest ∧
      (⟨c.bytes⟩ : Path).components = [c] ∧ ∀ d ∈ rest, d.IsInner := by
  have hinner : ∀ d ∈ p.inner, d.IsInner := fun d hd => isInner_of_mem_inner hd
  have hlead : p.lead = [] ∨ ∃ c, p.lead = [c] ∧ (⟨c.bytes⟩ : Path).components = [c] := by
    unfold lead
    split
    · exact .inr ⟨.root, rfl, by decide⟩
    · split
      · exact .inr ⟨.current, rfl, by decide⟩
      · exact .inl rfl
  rcases hlead with hlead | ⟨c, hlead, hc⟩
  · rcases h : p.inner with _ | ⟨c, rest⟩
    · exact .inl (by simp [components_eq, hlead, h])
    · rw [h, List.forall_mem_cons] at hinner
      obtain ⟨-, hnone, hone⟩ := inner_bytes hinner.1
      exact .inr ⟨c, rest, by simp [components_eq, hlead, h],
        by rw [components_eq, hnone, hone]; rfl, hinner.2⟩
  · exact .inr ⟨c, p.inner, by simp [components_eq, hlead], hc, hinner⟩

/-- Components that may stand behind others are written as relative paths, which stand for them. -/
theorem flatMap_inner_bytes {cs : List Component} (hcs : ∀ c ∈ cs, c.IsInner) :
    (∀ part ∈ cs.map fun c => (⟨c.bytes⟩ : Path), part.isAbsolute = false) ∧
      (cs.map fun c => (⟨c.bytes⟩ : Path)).flatMap inner = cs := by
  constructor
  · intro part hpart
    obtain ⟨c, hc, rfl⟩ := List.mem_map.1 hpart
    exact (inner_bytes (hcs c hc)).1
  · induction cs with
    | nil => rfl
    | cons c rest ih =>
      obtain ⟨-, -, hinner⟩ := inner_bytes (hcs c List.mem_cons_self)
      rw [List.map_cons, List.flatMap_cons, hinner,
        ih fun d hd => hcs d (List.mem_cons_of_mem c hd)]
      rfl

/-- The beginning of a path's components is written as a path that has just these components. -/
theorem components_ofComponents_take (p : Path) (n : Nat) :
    (ofComponents (p.components.take n)).components = p.components.take n := by
  rcases p.components_cases with hnone | ⟨c, rest, hcs, hc, hrest⟩
  · rw [hnone, List.take_nil]
    rfl
  · cases n with
    | zero => rfl
    | succ n =>
      -- the first component is written as it is, and the others are joined to it
      have hne : c.bytes ≠ [] := by
        intro hempty
        rw [hempty] at hc
        cases hc
      have htake : ∀ d ∈ rest.take n, d.IsInner := fun d hd => hrest d (List.mem_of_mem_take hd)
      calc (ofComponents (p.components.take (n + 1))).components
          = (((⟨[]⟩ : Path).join ⟨c.bytes⟩).joinAll
              ((rest.take n).map fun c => ⟨c.bytes⟩)).components := by rw [hcs]; rfl
        _ = (⟨c.bytes⟩ : Path).components ++ rest.take n := by
          obtain ⟨hrelative, hspelled⟩ := flatMap_inner_bytes htake
          rw [empty_join, components_joinAll (p := ⟨c.bytes⟩) hne hrelative, hspelled]
        _ = p.components.take (n + 1) := by rw [hc, hcs]; rfl

/-- Every beginning of a path's components is written as a path that has just these. -/
theorem components_ofComponents {p : Path} {way : List Component} (hway : way <+: p.components) :
    (ofComponents way).components = way := by
  rw [List.prefix_iff_eq_take.1 hway]
  exact p.components_ofComponents_take _

/-! ### Behind the first components -/

/-- What is left of segments is at their end. -/
theorem dropComponents_suffix (n : Nat) (segments : List Bytes) :
    dropComponents n segments <:+ segments := by
  induction segments generalizing n with
  | nil => exact List.suffix_rfl
  | cons segment rest ih =>
    cases n with
    | zero => exact List.suffix_rfl
    | succ n =>
      rw [dropComponents]
      split <;> exact (ih _).trans (List.suffix_cons segment rest)

/-- Trimmed segments start with one that stands for a component. -/
theorem isIdle_of_trimIdle {segments rest : List Bytes} {first : Bytes}
    (h : trimIdle segments = first :: rest) : isIdle first = false ∧ first ∈ segments := by
  -- what trimming leaves starts where dropping idle segments at the front stops
  have hstart : trimIdle segments <+: segments.dropWhile isIdle := by
    have hsuffix := List.dropWhile_suffix (l := (segments.dropWhile isIdle).reverse) isIdle
    rw [trimIdle, ← List.reverse_suffix, List.reverse_reverse]
    exact hsuffix
  rw [h] at hstart
  obtain ⟨others, hothers⟩ := hstart
  have hdropped : segments.dropWhile isIdle = first :: (rest ++ others) := by rw [← hothers]; rfl
  refine ⟨?_, (List.dropWhile_suffix isIdle).mem (by simp [hdropped])⟩
  have hhead := List.head?_dropWhile_not isIdle segments
  rw [hdropped] at hhead
  simpa using hhead

/-- Segments that start with a component are written as a relative path. -/
theorem isAbsolute_ofSegments_trimIdle {segments : List Bytes}
    (hslash : ∀ segment ∈ segments, slash ∉ segment) :
    (ofSegments (trimIdle segments)).isAbsolute = false := by
  cases htrimmed : trimIdle segments with
  | nil => rfl
  | cons first rest =>
    obtain ⟨hbusy, hmem⟩ := isIdle_of_trimIdle htrimmed
    -- the empty segment is idle, so there is a first byte, and it is not a slash
    have hne : first ≠ [] := by
      rintro rfl
      cases hbusy
    obtain ⟨b, bytes, rfl⟩ := List.exists_cons_of_ne_nil hne
    have hb : b ≠ slash := by
      rintro rfl
      exact hslash _ hmem List.mem_cons_self
    cases rest <;> simp [isAbsolute, ofSegments, List.intercalate_cons_cons, hb]

/-- What lies behind the first components of a path is a relative path. -/
theorem isAbsolute_behind (p : Path) (n : Nat) : (p.behind n).isAbsolute = false := by
  have hslash : ∀ segment ∈ p.segments, slash ∉ segment := fun _ => slash_notMem_of_mem_segments
  have hdropped {segments : List Bytes} (hsuffix : segments <:+ p.segments) (n : Nat) :
      (ofSegments (trimIdle (dropComponents n segments))).isAbsolute = false :=
    isAbsolute_ofSegments_trimIdle fun segment hsegment =>
      hslash segment (hsuffix.mem ((dropComponents_suffix n segments).mem hsegment))
  unfold behind
  split
  next heq => exact hdropped (heq ▸ List.suffix_cons ..) _
  next heq => exact hdropped (heq ▸ List.suffix_cons ..) _
  next => exact hdropped List.suffix_rfl _

end ContainerBuild.Path
