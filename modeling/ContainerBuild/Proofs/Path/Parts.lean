import ContainerBuild.Proofs.Path.Joining

/-!
# Parts of a path

A path is cut between two of its components by cutting its segments, with those that stand for
nothing left where they are or trimmed away. Each part has the components on its side of the cut, so
a parent has all components but the last one, and what lies behind a directory has those that are
not the directory's.

* `Path.segments_ofSegments` — segments without slashes are those of the path that is written with
  them.
* `Path.components_behind` — what lies behind the first components of a path has the others.
* `Path.parent?_eq_some` — the parent of a path with a last component.
-/

namespace ContainerBuild.Path

/-! ### Cutting segments -/

theorem body_cons (segment : Bytes) (rest : List Bytes) :
    body (segment :: rest) = (component? segment).toList ++ body rest := by
  cases h : component? segment <;> simp [body, h]

theorem body_dropComponents (n : Nat) (segments : List Bytes) :
    body (dropComponents n segments) = (body segments).drop n := by
  induction segments generalizing n with
  | nil => simp [dropComponents, body]
  | cons segment rest ih =>
    cases n with
    | zero => rfl
    | succ n =>
      rw [dropComponents, body_cons]
      -- an idle segment is dropped without being counted
      cases h : component? segment with
      | none => simp [isIdle, h, ih]
      | some c => simp [isIdle, h, ih]

theorem body_takeComponents (n : Nat) (segments : List Bytes) :
    body (takeComponents n segments) = (body segments).take n := by
  induction segments generalizing n with
  | nil => simp [takeComponents, body]
  | cons segment rest ih =>
    cases n with
    | zero => rfl
    | succ n =>
      -- an idle segment is kept without being counted
      rw [takeComponents, body_cons, body_cons]
      cases h : component? segment with
      | none => simp [isIdle, h, ih]
      | some c => simp [isIdle, h, ih]

/-- Idle segments at the front stand for nothing. -/
theorem body_dropWhile_isIdle (segments : List Bytes) :
    body (segments.dropWhile isIdle) = body segments := by
  induction segments with
  | nil => rfl
  | cons segment rest ih =>
    rw [List.dropWhile_cons, body_cons]
    split
    next hidle =>
      rw [isIdle, Option.isNone_iff_eq_none] at hidle
      rw [ih, hidle]
      rfl
    next => rw [body_cons]

theorem body_trimIdle (segments : List Bytes) : body (trimIdle segments) = body segments := by
  -- idle segments are dropped from both ends, which is the front twice
  have hreverse (l : List Bytes) : body l.reverse = (body l).reverse := List.filterMap_reverse
  rw [trimIdle, hreverse, body_dropWhile_isIdle, hreverse, List.reverse_reverse,
    body_dropWhile_isIdle]

theorem mem_of_mem_trimIdle {segment : Bytes} {segments : List Bytes}
    (h : segment ∈ trimIdle segments) : segment ∈ segments := by
  rw [trimIdle, List.mem_reverse] at h
  have hreverse := (List.dropWhile_suffix isIdle).mem h
  exact (List.dropWhile_suffix isIdle).mem (List.mem_reverse.1 hreverse)

/-! ### Writing segments -/

/-- Segments without slashes are those of the path that is written with them. -/
theorem segments_ofSegments {segments : List Bytes} (hne : segments ≠ [])
    (hslash : ∀ segment ∈ segments, slash ∉ segment) :
    (ofSegments segments).segments = segments := by
  show ([slash].intercalate segments).splitOn slash = segments
  rw [List.splitOn_intercalate _ hslash hne]

theorem inner_ofSegments {segments : List Bytes} (hslash : ∀ segment ∈ segments, slash ∉ segment) :
    (ofSegments segments).inner = body segments := by
  cases segments with
  | nil => rfl
  | cons first rest => rw [inner, segments_ofSegments (List.cons_ne_nil first rest) hslash]

/-! ### The first segment -/

/-- A path is absolute exactly if nothing stands in front of its first slash. -/
theorem isAbsolute_iff_of_segments {p : Path} {first : Bytes} {rest : List Bytes}
    (hsegments : p.segments = first :: rest) : p.isAbsolute = true ↔ first = [] ∧ rest ≠ [] := by
  unfold segments at hsegments
  unfold isAbsolute
  cases hbytes : p.bytes with
  | nil =>
    rw [hbytes] at hsegments
    obtain ⟨rfl, rfl⟩ := List.cons.inj hsegments
    simp
  | cons b bytes =>
    rw [hbytes, List.splitOn_cons_eq_if_modifyHead] at hsegments
    by_cases hb : b = slash
    · simp only [hb, beq_self_eq_true, if_true, List.cons.injEq] at hsegments
      simp [hb, ← hsegments.1, ← hsegments.2]
    · -- the first byte belongs to the first segment
      obtain ⟨head, parts, hsplit⟩ :=
        List.exists_cons_of_ne_nil (List.splitOn_ne_nil slash bytes)
      rw [if_neg (by simpa using hb), hsplit, List.modifyHead_cons] at hsegments
      obtain ⟨rfl, -⟩ := List.cons.inj hsegments
      simp [hb]

/-- A path starts with the root or a dot exactly if its first segment writes that, and this segment
stands for nothing else. -/
theorem lead_cases (p : Path) :
    (p.lead = [] ∧ p.components = p.inner) ∨
      ∃ c first rest, (c = .root ∧ first = [] ∨ c = .current ∧ first = dot) ∧
        p.segments = first :: rest ∧ p.components = c :: body rest := by
  obtain ⟨first, rest, hsegments⟩ :=
    List.exists_cons_of_ne_nil (List.splitOn_ne_nil slash p.bytes)
  have habsolute := isAbsolute_iff_of_segments hsegments
  have hcomponents : p.components = p.lead ++ body (first :: rest) := by
    rw [components_eq, inner, segments, hsegments]
  unfold lead at hcomponents ⊢
  by_cases hroot : p.isAbsolute = true
  · -- the root is written by the empty segment in front of the first slash
    right
    obtain ⟨rfl, -⟩ := habsolute.1 hroot
    refine ⟨.root, [], rest, .inl ⟨rfl, rfl⟩, hsegments, ?_⟩
    rw [hcomponents, if_pos hroot]
    rfl
  · by_cases hdot : first = dot
    · right
      refine ⟨.current, first, rest, .inr ⟨rfl, hdot⟩, hsegments, ?_⟩
      rw [hcomponents, if_neg hroot, segments, hsegments, hdot]
      rfl
    · left
      have hhead : p.segments.head? ≠ some dot := by
        rw [segments, hsegments]
        simpa using hdot
      rw [if_neg hroot, if_neg hhead] at hcomponents ⊢
      exact ⟨rfl, by rw [hcomponents, inner, segments, hsegments]; rfl⟩

/-- A path without a lead starts with a segment that is neither empty nor a dot, unless it has no
components. -/
theorem first_ne_of_lead {p : Path} {first : Bytes} {rest : List Bytes}
    (hsegments : p.segments = first :: rest) (hlead : p.lead = []) (hne : p.components ≠ []) :
    first ≠ [] ∧ first ≠ dot := by
  have habsolute := isAbsolute_iff_of_segments hsegments
  rw [components_eq, hlead, inner, hsegments] at hne
  unfold lead at hlead
  constructor
  · rintro rfl
    have hrest : rest ≠ [] := by
      rintro rfl
      exact hne rfl
    rw [if_pos (habsolute.2 ⟨rfl, hrest⟩)] at hlead
    cases hlead
  · rintro rfl
    rw [if_neg fun h => absurd (habsolute.1 h).1 (by decide), hsegments] at hlead
    cases hlead

/-- A path of normal components is relative and does not start with a dot. -/
theorem lead_of_normal {p : Path} (h : ∀ c ∈ p.components, c.isNormal = true) :
    p.isAbsolute = false ∧ p.lead = [] := by
  have hlead : ∀ c ∈ p.lead, c.isNormal = true := fun c hc =>
    h c (by rw [components_eq]; exact List.mem_append_left _ hc)
  unfold lead at hlead ⊢
  cases habsolute : p.isAbsolute with
  | true => simp [habsolute, Component.isNormal] at hlead
  | false =>
    refine ⟨rfl, ?_⟩
    split at hlead
    next h => rw [habsolute] at h; cases h
    next =>
      split at hlead
      next => simp [Component.isNormal] at hlead
      next hdot => simp [hdot]

/-- What segments stand for starts neither with the root nor with a leading dot. -/
theorem head?_inner_ne (p : Path) {c : Component} (hc : c = .root ∨ c = .current) :
    p.inner.head? ≠ some c := by
  intro hhead
  have hinner := isInner_of_mem_inner (List.mem_of_head? hhead)
  rcases hc with rfl | rfl <;> exact hinner

/-- Segments that start with one that is neither empty nor a dot are written as a path without a
lead. -/
theorem lead_ofSegments {segments others : List Bytes} {first : Bytes}
    (hsegments : segments = first :: others) (hslash : ∀ segment ∈ segments, slash ∉ segment)
    (hempty : first ≠ []) (hdot : first ≠ dot) : (ofSegments segments).lead = [] := by
  have hcut := segments_ofSegments (hsegments ▸ List.cons_ne_nil first others) hslash
  rcases (ofSegments segments).lead_cases with ⟨hlead, -⟩ | ⟨c, first', rest, hc, hfirst, -⟩
  · exact hlead
  · rw [hcut, hsegments] at hfirst
    obtain ⟨rfl, -⟩ := List.cons.inj hfirst
    rcases hc with ⟨-, h⟩ | ⟨-, h⟩
    · exact absurd h hempty
    · exact absurd h hdot

/-! ### Behind the first components -/

/-- What lies behind the first components of a path is written with segments of the path. -/
theorem behind_eq (p : Path) (n : Nat) :
    ∃ segments, (∀ segment ∈ segments, slash ∉ segment) ∧
      p.behind n = ofSegments (trimIdle segments) ∧
        (n ≠ 0 → body segments = p.components.drop n) := by
  have hslash {rest : List Bytes} (hrest : rest <:+ p.segments) (k : Nat) :
      ∀ segment ∈ dropComponents k rest, slash ∉ segment := fun segment h =>
    slash_notMem_of_mem_segments (hrest.mem ((dropComponents_suffix k rest).mem h))
  cases n with
  | zero => exact ⟨_, hslash List.suffix_rfl 0, rfl, fun h => absurd rfl h⟩
  | succ n =>
    rcases p.lead_cases with ⟨-, hinner⟩ | ⟨c, first, rest, hc, hsegments, hcomponents⟩
    · refine ⟨_, hslash List.suffix_rfl (n + 1), ?_, fun _ => ?_⟩
      · -- the first component is none that is left out with its segment
        have hhead {c : Component} (hc : c = .root ∨ c = .current) (rest : List Component) :
            p.components ≠ c :: rest := fun h =>
          p.head?_inner_ne hc (by rw [← hinner, h]; rfl)
        unfold behind
        split
        next h _ => exact absurd h (hhead (.inl rfl) _)
        next h _ => exact absurd h (hhead (.inr rfl) _)
        next => rfl
      · rw [body_dropComponents, hinner]
        rfl
    · refine ⟨_, hslash (hsegments ▸ List.suffix_cons first rest) n, ?_, fun _ => ?_⟩
      · rcases hc with ⟨rfl, -⟩ | ⟨rfl, -⟩ <;> simp only [behind, hcomponents, hsegments]
      · rw [body_dropComponents, hcomponents]
        rfl

/-- What lies behind the first components of a path starts with none that is written only at the
start. -/
theorem lead_behind (p : Path) (n : Nat) : (p.behind n).lead = [] := by
  obtain ⟨segments, hslash, hbehind, -⟩ := p.behind_eq n
  rw [hbehind]
  cases htrimmed : trimIdle segments with
  | nil => rfl
  | cons first rest =>
    -- the empty segment and the dot are idle, so neither is left in front
    have hbusy := (isIdle_of_trimIdle htrimmed).1
    refine lead_ofSegments rfl (fun segment h => hslash segment ?_) ?_ ?_
    · exact mem_of_mem_trimIdle (htrimmed ▸ h)
    · rintro rfl
      cases hbusy
    · rintro rfl
      cases hbusy

/-- What lies behind the first components of a path has the other components. -/
theorem components_behind (p : Path) {n : Nat} (hn : n ≠ 0) :
    (p.behind n).components = p.components.drop n := by
  obtain ⟨segments, hslash, hbehind, hbody⟩ := p.behind_eq n
  have hinner : (p.behind n).inner = body segments := by
    rw [hbehind, inner_ofSegments fun segment h => hslash segment (mem_of_mem_trimIdle h),
      body_trimIdle]
  rw [components_eq, lead_behind, hinner, List.nil_append, hbody hn]

/-- Behind no components lies the whole path, if it starts with none that is written only at the
start. -/
theorem components_behind_zero {p : Path} (hlead : p.lead = []) :
    (p.behind 0).components = p.components := by
  have hbehind : p.behind 0 = ofSegments (trimIdle p.segments) := by
    have hdrop (segments : List Bytes) : dropComponents 0 segments = segments := by
      cases segments <;> rfl
    simp only [behind, hdrop]
  have hclean : ∀ segment ∈ trimIdle p.segments, slash ∉ segment := fun segment h =>
    slash_notMem_of_mem_segments (mem_of_mem_trimIdle h)
  calc (p.behind 0).components
      = (ofSegments (trimIdle p.segments)).inner := by
        rw [components_eq, lead_behind, hbehind, List.nil_append]
    _ = p.inner := by rw [inner_ofSegments hclean, body_trimIdle, inner]
    _ = p.components := by rw [components_eq, hlead, List.nil_append]

/-! ### Parents -/

theorem takeComponents_start (n : Nat) (segments : List Bytes) :
    takeComponents n segments <+: segments := by
  induction segments generalizing n with
  | nil => exact List.prefix_rfl
  | cons segment rest ih =>
    cases n with
    | zero => exact List.nil_prefix
    | succ n =>
      rw [takeComponents, List.cons_prefix_cons]
      refine ⟨rfl, ?_⟩
      split <;> exact ih _

/-- The path that is written with the segments of its components, of which the segments of a longer
path are given. -/
def front : List Component → List Bytes → Path
  | [], _ => ⟨[]⟩
  | .root :: before, _ :: segments =>
    ⟨slash :: (ofSegments (takeComponents before.length segments)).bytes⟩
  | .current :: before, segment :: segments =>
    if before.isEmpty then ⟨segment⟩
    else ofSegments (segment :: takeComponents before.length segments)
  | before, segments => ofSegments (takeComponents before.length segments)

theorem parent?_of_components {p : Path} {before : List Component} {last : Component}
    (hcomponents : p.components = before ++ [last]) (hlast : last ≠ .root) :
    p.parent? = some (front before p.segments) := by
  have hreverse : p.components.reverse = last :: before.reverse := by simp [hcomponents]
  obtain ⟨first, rest, hsegments⟩ : ∃ first rest, p.segments = first :: rest :=
    List.exists_cons_of_ne_nil (List.splitOn_ne_nil slash p.bytes)
  clear hcomponents
  rw [parent?, hreverse, hsegments]
  cases last with
  | root => exact absurd rfl hlast
  | _ =>
    -- the last component does not matter, and the first one decides what is written
    simp only [List.reverse_reverse]
    rcases before with _ | ⟨_ | _ | _ | _, before⟩
    case cons.current =>
      dsimp only [front]
      split <;> rfl
    all_goals rfl

/-- The slash of the root stands for nothing else. -/
theorem inner_slash_cons (bytes : Bytes) :
    (⟨slash :: bytes⟩ : Path).inner = (⟨bytes⟩ : Path).inner := by
  show body (([] ++ slash :: bytes).splitOn slash) = body (bytes.splitOn slash)
  rw [List.splitOn_append_cons_self, body_append]
  rfl

/-- A path that is written with a dot and then other segments starts with a leading dot. -/
theorem components_ofSegments_dot {segments : List Bytes}
    (hslash : ∀ segment ∈ segments, slash ∉ segment) :
    (ofSegments (dot :: segments)).components = .current :: body segments := by
  have hcut : (ofSegments (dot :: segments)).segments = dot :: segments := by
    refine segments_ofSegments (List.cons_ne_nil _ _) fun segment h => ?_
    rcases List.mem_cons.1 h with rfl | h
    · decide
    · exact hslash segment h
  have hrelative : (ofSegments (dot :: segments)).isAbsolute = false := by
    rw [← Bool.not_eq_true, isAbsolute_iff_of_segments hcut]
    exact fun h => absurd h.1 (by decide)
  rw [components_eq, lead, inner, hcut, hrelative]
  rfl

/-- Without a lead, the components in front of others are those of the path that is written with
their segments. -/
theorem components_front_of_lead {p : Path} {c : Component} {before after : List Component}
    (hlead : p.lead = []) (hcomponents : p.components = c :: before ++ after) :
    (front (c :: before) p.segments).components = c :: before := by
  obtain ⟨first, rest, hsegments⟩ : ∃ first rest, p.segments = first :: rest :=
    List.exists_cons_of_ne_nil (List.splitOn_ne_nil slash p.bytes)
  have hinner : p.inner = c :: before ++ after := by
    rw [← hcomponents, components_eq, hlead, List.nil_append]
  have hhead : p.inner.head? = some c := by rw [hinner]; rfl
  have hfront : front (c :: before) p.segments =
      ofSegments (takeComponents (before.length + 1) p.segments) := by
    cases c with
    | root => exact absurd hhead (p.head?_inner_ne (.inl rfl))
    | current => exact absurd hhead (p.head?_inner_ne (.inr rfl))
    | parent => rfl
    | normal name => rfl
  have hclean : ∀ segment ∈ takeComponents (before.length + 1) p.segments, slash ∉ segment :=
    fun segment h => slash_notMem_of_mem_segments ((takeComponents_start _ _).mem h)
  -- the first segment is kept, and it is the one that decides about a lead
  obtain ⟨others, hothers⟩ : ∃ others,
      takeComponents (before.length + 1) p.segments = first :: others := by
    rw [hsegments]
    exact ⟨_, rfl⟩
  obtain ⟨hempty, hdot⟩ := first_ne_of_lead hsegments hlead (by simp [hcomponents])
  have hbody : body p.segments = c :: before ++ after := hinner
  rw [hfront, components_eq, lead_ofSegments hothers hclean hempty hdot, inner_ofSegments hclean,
    body_takeComponents, hbody]
  simp

/-- The components in front of others are those of the path that is written with their segments. -/
theorem components_front {p : Path} {before after : List Component}
    (hcomponents : p.components = before ++ after) (hbefore : before ≠ []) :
    (front before p.segments).components = before := by
  obtain ⟨c, before, rfl⟩ := List.exists_cons_of_ne_nil hbefore
  rcases p.lead_cases with ⟨hlead, -⟩ | ⟨c', first, rest, hc, hsegments, hlead⟩
  · exact components_front_of_lead hlead hcomponents
  · rw [hcomponents, List.cons_append, List.cons.injEq] at hlead
    obtain ⟨rfl, hrest⟩ := hlead
    have htaken : body (takeComponents before.length rest) = before := by
      rw [body_takeComponents, ← hrest, List.take_left]
    have hclean : ∀ segment ∈ takeComponents before.length rest, slash ∉ segment := by
      intro segment h
      have hmem : segment ∈ first :: rest :=
        List.mem_cons_of_mem first ((takeComponents_start _ rest).mem h)
      exact slash_notMem_of_mem_segments (hsegments ▸ hmem)
    rw [hsegments]
    -- what is behind the lead is cut, and the lead is written in front of it again
    rcases hc with ⟨rfl, rfl⟩ | ⟨rfl, rfl⟩
    · rw [front, components_eq, inner_slash_cons, inner_ofSegments hclean, htaken]
      rfl
    · have hfront : front (.current :: before) (dot :: rest) =
          ofSegments (dot :: takeComponents before.length rest) := by
        cases before with
        | nil => cases rest <;> rfl
        | cons c before => rfl
      rw [hfront, components_ofSegments_dot hclean, htaken]

/-- A path with a last component other than the root has a parent, of which the components are those
before the last one. -/
theorem parent?_eq_some {p : Path} {before : List Component} {last : Component}
    (hcomponents : p.components = before ++ [last]) (hlast : last ≠ .root) :
    ∃ q, p.parent? = some q ∧ q.components = before := by
  refine ⟨front before p.segments, parent?_of_components hcomponents hlast, ?_⟩
  by_cases hbefore : before = []
  · rw [hbefore]
    rfl
  · exact components_front hcomponents hbefore

end ContainerBuild.Path
