import RouteBook.Proofs.Catalog.Qualifying
/-!
# Stability: what other files, their order and a longer path change

* `found_perm`, `found_append`: what is named in files in another order, and in more files.
* `resolve_eq_ambiguity`, `resolve_of_found_eq_nil`: the outcome, by the number of endpoints that are
  named.
* `resolve_qualified`: with a qualifier in front, an endpoint is found again or nothing is.
* `resolve_qualified_shifted`: unless a colon at the end of the qualifier is taken for the name of a
  module.
* `resolve_of_steps_eq`: identifiers with the same steps come to the same.
* `resolve_of_perm`, `resolve_append`, `Ambiguous.append`: the outcome for files in another order, and
  with more files.
* `resolve_stable`: all of it together, and the word for the root of the sources in front.
-/

namespace RouteBook.Catalog

/-! ## The outcome, by what is named -/

section Outcome

variable {c : Catalog} {identifier : String} {d : Endpoint}

theorem resolve_eq_ambiguity (hc : c.OwnersDeclared) (hf : 1 < (c.found identifier).length) :
    c.resolve identifier =
      .error (.unresolvedHandler identifier (ambiguity (c.found identifier))) := by
  have h := resolve_cases hc identifier
  rcases hfound : c.found identifier with _ | ⟨e, _ | ⟨e', more⟩⟩ <;> rw [hfound] at h hf
  · simp at hf
  · simp at hf
  · exact h

theorem resolve_of_found_eq_nil (hc : c.OwnersDeclared) (hf : c.found identifier = []) :
    ∃ reason, c.resolve identifier = .error (.unresolvedHandler identifier reason) := by
  have h := resolve_cases hc identifier
  rwa [hf] at h

theorem resolve_of_candidates_eq_error {reason : String} (h : c.candidates identifier = .error reason) :
    c.resolve identifier = .error (.unresolvedHandler identifier reason) := by
  simp only [resolve, h]
  rfl

theorem toList_ambiguity (named : List Endpoint) : (ambiguity named).toList =
    "ambiguous, matches ".toList ++ (Text.joined ", " (named.map Endpoint.qualifiedName)).toList ++
      "; qualify it with its module path".toList := by
  unfold ambiguity
  exact String.toList_append.trans (congrArg (· ++ _) String.toList_append)

theorem head?_ambiguity (named : List Endpoint) : (ambiguity named).toList.head? = some 'a' := by
  have hword : "ambiguous, matches ".toList.head? = some 'a' := by decide
  simp only [toList_ambiguity, List.append_assoc, List.head?_append, hword, Option.some_or]

theorem joined_eq_of_ambiguity_eq {named named' : List Endpoint} (h : ambiguity named = ambiguity named') :
    Text.joined ", " (named.map Endpoint.qualifiedName) =
      Text.joined ", " (named'.map Endpoint.qualifiedName) := by
  have h := congrArg String.toList h
  simp only [toList_ambiguity, List.append_left_inj, List.append_right_inj] at h
  exact String.toList_inj.mp h

/-- Endpoints that are told alike are told alike with more of them. -/
theorem ambiguity_append {named named' : List Endpoint} (hn : named ≠ []) (hn' : named' ≠ [])
    (h : ambiguity named = ambiguity named') (more : List Endpoint) :
    ambiguity (named ++ more) = ambiguity (named' ++ more) := by
  rcases eq_or_ne more [] with rfl | hm
  · rwa [List.append_nil, List.append_nil]
  have happend : ∀ es : List Endpoint, es ≠ [] →
      Text.joined ", " ((es ++ more).map Endpoint.qualifiedName) =
        Text.joined ", " (es.map Endpoint.qualifiedName) ++ ", " ++
          Text.joined ", " (more.map Endpoint.qualifiedName) := by
    intro es he
    rw [List.map_append]
    exact Text.joined_append (by simpa using he) (by simpa using hm)
  have hjoined : Text.joined ", " ((named ++ more).map Endpoint.qualifiedName) =
      Text.joined ", " ((named' ++ more).map Endpoint.qualifiedName) := by
    rw [happend named hn, happend named' hn', joined_eq_of_ambiguity_eq h]
  unfold ambiguity
  rw [hjoined]

/-- Only where several endpoints are named an ambiguity is told, and then it is theirs. -/
theorem ambiguity_found_eq {named : List Endpoint} (hc : c.OwnersDeclared)
    (h : c.resolve identifier = .error (.unresolvedHandler identifier (ambiguity named))) :
    1 < (c.found identifier).length ∧ ambiguity (c.found identifier) = ambiguity named := by
  by_cases hf : 1 < (c.found identifier).length
  · rw [resolve_eq_ambiguity hc hf] at h
    exact ⟨hf, by simpa using h⟩
  · -- any other reason starts with another letter
    have hreason : ∀ reason : String, reason.toList.head? ≠ some 'a' → c.resolve identifier ≠
        .error (.unresolvedHandler identifier reason) := by
      intro reason hr hres
      rw [h] at hres
      have heq : ambiguity named = reason := by simpa using hres
      exact hr (heq ▸ head?_ambiguity named)
    rcases candidates_cases hc identifier with hcand | ⟨-, reason, hcand⟩
    · rcases hfound : c.found identifier with _ | ⟨e, _ | ⟨e', more⟩⟩ <;> rw [hfound] at hcand hf
      · exact absurd (by simp only [resolve, hcand]; rfl) (hreason _ (by decide))
      · simp [resolve, hcand] at h
      · exact absurd (by simp) hf
    · exact absurd (resolve_of_candidates_eq_error hcand)
        (hreason reason (head?_of_candidates_eq_error hcand))

end Outcome

/-! ## Files -/

section Files

variable {root : Option String} {files files' more : List SourceFile} {identifier : String}

theorem found_append : (ofFiles root (files ++ more)).found identifier =
    (ofFiles root files).found identifier ++ (ofFiles root more).found identifier := by
  simp [found, ofFiles, List.filter_append]

theorem found_perm (h : files'.Perm files) :
    ((ofFiles root files').found identifier).Perm ((ofFiles root files).found identifier) :=
  (h.flatMap_right _).filter _

end Files

/-! ## Qualifiers -/

section Qualifiers

variable {c : Catalog} {identifier qualifier : String} {d : Endpoint}

/-- What is named by an identifier that names no more than another one. -/
theorem found_eq_filter {identifier' : String}
    (h : ∀ e ∈ c.endpoints, Names identifier' e → Names identifier e) :
    c.found identifier' = (c.found identifier).filter fun e => Names identifier' e := by
  rw [found, found, List.filter_filter]
  refine List.filter_congr fun e he => ?_
  rw [Bool.eq_iff_iff, Bool.and_eq_true, decide_eq_true_iff, decide_eq_true_iff]
  exact ⟨fun hn => ⟨hn, h e he hn⟩, And.left⟩

/-- With a qualifier in front, an endpoint is found again, or nothing is. -/
theorem resolve_qualified (hc : c.OwnersDeclared) (hd : c.resolve identifier = .ok d)
    (hq : '@' ∉ qualifier.toList) (hcolons : Text.colonsAtEnd qualifier.toList % 2 = 0 ∨
      ∀ e ∈ c.endpoints, ∀ s ∈ e.names, ':' ∉ s.toList) :
    c.resolve (qualified qualifier identifier) = .ok d ∨ ∃ reason,
      c.resolve (qualified qualifier identifier) =
        .error (.unresolvedHandler (qualified qualifier identifier) reason) := by
  have hfound : c.found identifier = [d] := (resolve_eq_ok_iff hc).mp hd
  have hmem : d ∈ c.found identifier := by simp [hfound]
  obtain ⟨hdc, hdn⟩ := List.mem_filter.mp hmem
  have hnames : ∀ e ∈ c.endpoints, Names (qualified qualifier identifier) e → Names identifier e := by
    intro e he hn
    rcases Nat.mod_two_eq_zero_or_one (Text.colonsAtEnd qualifier.toList) with heven | hodd
    · exact names_of_qualified hq heven (of_decide_eq_true hdn) hn
    · have hfree := hcolons.resolve_left (by omega)
      exact absurd hn (not_names_qualified hq hodd (of_decide_eq_true hdn) (hfree d hdc) (hfree e he))
  have hsub := found_eq_filter hnames
  rw [hfound] at hsub
  by_cases hn : Names (qualified qualifier identifier) d
  · simp only [List.filter_cons, List.filter_nil, hn, decide_true, if_true] at hsub
    exact Or.inl ((resolve_eq_ok_iff hc).mpr hsub)
  · simp only [List.filter_cons, List.filter_nil, hn, decide_false, Bool.false_eq_true, if_false] at hsub
    exact Or.inr (resolve_of_found_eq_nil hc hsub)

/-- A module whose name starts with a colon, next to one of the same name without it. -/
def colonModules : List SourceFile :=
  [⟨"a.rs", [.function ⟨[], "f", []⟩ []]⟩, ⟨"x/:a.rs", [.function ⟨[], "f", []⟩ []]⟩]

/-- A colon at the end of a qualifier is taken with the first one behind it, and leaves the other one to
the name of the next module. -/
theorem resolve_qualified_shifted : '@' ∉ "x:".toList ∧ ∃ d d',
    (ofFiles none colonModules).resolve "a::f" = .ok d ∧
      (ofFiles none colonModules).resolve (qualified "x:" "a::f") = .ok d' ∧ d' ≠ d :=
  ⟨by decide, ⟨["a"], none, "f", "", [], "a.rs"⟩, ⟨["x", ":a"], none, "f", "", [], "x/:a.rs"⟩,
    by rfl, by rfl, by decide⟩

section Alike

variable {identifier' : String}

/-- What comes of an identifier depends on its candidates, but for the identifier that is told back. -/
theorem resolve_congr (h : c.candidates identifier' = c.candidates identifier) :
    (∃ d, c.resolve identifier = .ok d ∧ c.resolve identifier' = .ok d) ∨
      ∃ reason, c.resolve identifier = .error (.unresolvedHandler identifier reason) ∧
        c.resolve identifier' = .error (.unresolvedHandler identifier' reason) := by
  rcases hcand : c.candidates identifier with reason | ⟨_ | ⟨e, _ | ⟨e', more⟩⟩⟩ <;> rw [hcand] at h
  · exact Or.inr ⟨reason, resolve_of_candidates_eq_error hcand, resolve_of_candidates_eq_error h⟩
  · exact Or.inr ⟨_, by simp only [resolve, hcand]; rfl, by simp only [resolve, h]; rfl⟩
  · exact Or.inl ⟨e, by simp only [resolve, hcand], by simp only [resolve, h]⟩
  · exact Or.inr ⟨_, by simp only [resolve, hcand]; rfl, by simp only [resolve, h]; rfl⟩

/-- Identifiers with the same steps and the same method are resolved alike, but for the identifier and
its path where they are told back. -/
theorem resolve_of_steps_eq (hs : steps (path identifier') = steps (path identifier))
    (hm : (Text.cutAt '@' identifier'.toList).2 = (Text.cutAt '@' identifier.toList).2) :
    (∀ d, c.resolve identifier = .ok d → c.resolve identifier' = .ok d) ∧
      ∀ reason, c.resolve identifier = .error (.unresolvedHandler identifier reason) →
        c.resolve identifier' = .error (.unresolvedHandler identifier' reason) ∨
          (reason = undeclared (path identifier) ∧ c.resolve identifier' =
            .error (.unresolvedHandler identifier' (undeclared (path identifier')))) := by
  rcases candidates_of_steps_eq (c := c) hs hm with heq | ⟨h, h'⟩
  · rcases resolve_congr heq with ⟨d, hd, hd'⟩ | ⟨reason, hr, hr'⟩
    · rw [hd]
      exact ⟨fun _ he => he ▸ hd', fun _ he => absurd he (by simp)⟩
    · rw [hr]
      refine ⟨fun _ he => absurd he (by simp), fun told he => Or.inl ?_⟩
      obtain rfl : reason = told := by simpa using he
      exact hr'
  · rw [resolve_of_candidates_eq_error h]
    refine ⟨fun _ he => absurd he (by simp), fun told he => Or.inr ⟨?_, ?_⟩⟩
    · simpa using he.symm
    · exact resolve_of_candidates_eq_error h'

end Alike

end Qualifiers

/-! ## Stability -/

/-- Several endpoints are told to be what an identifier names. -/
def Ambiguous (c : Catalog) (identifier : String) (named : List Endpoint) : Prop :=
  1 < named.length ∧
    c.resolve identifier = .error (.unresolvedHandler identifier (ambiguity named))

section More

variable {root : Option String} {files files' : List SourceFile} {identifier : String} {d : Endpoint}

theorem resolve_of_perm (hperm : files'.Perm files)
    (hd : (ofFiles root files).resolve identifier = .ok d) :
    (ofFiles root files').resolve identifier = .ok d := by
  have hfound : ((ofFiles root files').found identifier).Perm
      ((ofFiles root files).found identifier) := found_perm hperm
  rw [(resolve_eq_ok_iff (ownersDeclared_ofFiles root files)).mp hd] at hfound
  exact (resolve_eq_ok_iff (ownersDeclared_ofFiles root files')).mpr hfound.eq_singleton

/-- With more files an endpoint stays, or is the first of several that are named. -/
theorem resolve_append (hd : (ofFiles root files).resolve identifier = .ok d)
    (more : List SourceFile) :
    (ofFiles root (files ++ more)).resolve identifier = .ok d ∨
      (ofFiles root (files ++ more)).Ambiguous identifier
        (d :: (ofFiles root more).found identifier) := by
  have howners : (ofFiles root (files ++ more)).OwnersDeclared :=
    ownersDeclared_ofFiles root (files ++ more)
  have hfound : (ofFiles root (files ++ more)).found identifier =
      d :: (ofFiles root more).found identifier := by
    rw [found_append, (resolve_eq_ok_iff (ownersDeclared_ofFiles root files)).mp hd,
      List.singleton_append]
  by_cases hnone : (ofFiles root more).found identifier = []
  · rw [hnone] at hfound
    exact Or.inl ((resolve_eq_ok_iff howners).mpr hfound)
  · have hlen : 1 < (d :: (ofFiles root more).found identifier).length := by
      rw [List.length_cons]
      have := List.length_pos_iff.mpr hnone
      omega
    refine Or.inr ⟨hlen, ?_⟩
    rw [← hfound]
    exact resolve_eq_ambiguity howners (by rwa [hfound])

/-- What is ambiguous stays so with more files, and what these name is told behind it. -/
theorem Ambiguous.append {named : List Endpoint}
    (h : (ofFiles root files).Ambiguous identifier named) (more : List SourceFile) :
    (ofFiles root (files ++ more)).Ambiguous identifier
      (named ++ (ofFiles root more).found identifier) := by
  obtain ⟨hlen, hres⟩ := h
  obtain ⟨hf, heq⟩ := ambiguity_found_eq (ownersDeclared_ofFiles root files) hres
  have hmany : 1 < ((ofFiles root (files ++ more)).found identifier).length := by
    rw [found_append, List.length_append]
    omega
  refine ⟨by rw [List.length_append]; omega, ?_⟩
  rw [resolve_eq_ambiguity (ownersDeclared_ofFiles root (files ++ more)) hmany, found_append,
    ambiguity_append (List.ne_nil_of_length_pos (by omega)) (List.ne_nil_of_length_pos (by omega)) heq]

/-- The word for the root is no step. -/
theorem steps_qualified_crate (hcrate : (segments (path identifier)).head? ≠ some "crate") :
    steps (path (qualified "crate" identifier)) = steps (path identifier) := by
  rw [path_qualified (by decide), steps_root]
  rcases steps_cases (path identifier) with hs | ⟨hs, -⟩
  · exact absurd (by rw [hs, List.head?_cons]) hcrate
  · exact hs

end More

/-- An endpoint that an identifier is resolved to does not depend on the order of the files. More files
leave it, or make the identifier ambiguous between it and what they add; what is ambiguous stays so. A
qualifier leaves it, or nothing is found, unless a colon at the qualifier's end can be taken for the name
of a module. The word for the root of the sources changes nothing but the path that is told back. -/
theorem resolve_stable (root : Option String) (files : List SourceFile) (identifier : String) :
    let c := ofFiles root files
    (∀ d, c.resolve identifier = .ok d →
      (∀ files', files'.Perm files → (ofFiles root files').resolve identifier = .ok d) ∧
      (∀ more, (ofFiles root (files ++ more)).resolve identifier = .ok d ∨
        (ofFiles root (files ++ more)).Ambiguous identifier
          (d :: (ofFiles root more).found identifier)) ∧
      ∀ qualifier, '@' ∉ qualifier.toList →
        (Text.colonsAtEnd qualifier.toList % 2 = 0 ∨
          ∀ e ∈ c.endpoints, ∀ s ∈ e.names, ':' ∉ s.toList) →
        c.resolve (qualified qualifier identifier) = .ok d ∨ ∃ reason,
          c.resolve (qualified qualifier identifier) =
            .error (.unresolvedHandler (qualified qualifier identifier) reason)) ∧
    (∀ named more, c.Ambiguous identifier named →
      (ofFiles root (files ++ more)).Ambiguous identifier
        (named ++ (ofFiles root more).found identifier)) ∧
    ((segments (path identifier)).head? ≠ some "crate" →
      (∀ d, c.resolve identifier = .ok d → c.resolve (qualified "crate" identifier) = .ok d) ∧
      ∀ reason, c.resolve identifier = .error (.unresolvedHandler identifier reason) →
        c.resolve (qualified "crate" identifier) =
            .error (.unresolvedHandler (qualified "crate" identifier) reason) ∨
          (reason = undeclared (path identifier) ∧ c.resolve (qualified "crate" identifier) =
            .error (.unresolvedHandler (qualified "crate" identifier)
              (undeclared ("crate::".toList ++ path identifier))))) := by
  intro c
  have hc : c.OwnersDeclared := ownersDeclared_ofFiles root files
  refine ⟨fun d hd => ⟨fun files' hperm => resolve_of_perm hperm hd, resolve_append hd,
    fun qualifier hq hcolons => resolve_qualified hc hd hq hcolons⟩,
    fun named more hamb => hamb.append more, fun hcrate => ?_⟩
  -- the steps are the same, and so is the method
  have hat : '@' ∉ "crate".toList := by decide
  have hpath : path (qualified "crate" identifier) = "crate::".toList ++ path identifier := by
    rw [path_qualified hat]
    rfl
  rw [← hpath]
  exact resolve_of_steps_eq (steps_qualified_crate hcrate) (by rw [cutAt_qualified hat])

/-- The function `index` of the first module. -/
def usersIndex : Endpoint :=
  ⟨["users"], none, "index", "", [], "users.rs"⟩

/-- The function `index` of the second module. -/
def postsIndex : Endpoint :=
  ⟨["posts"], none, "index", "", [], "posts.rs"⟩

/-- One of the two is found in any order and from the root, and never another one behind a longer path;
both stay ambiguous with more files. -/
theorem resolve_stable_siblings :
    let c := ofFiles none siblings
    (c.resolve "users::index" = .ok usersIndex ∧ siblings.reverse.Perm siblings ∧
      (ofFiles none siblings.reverse).resolve "users::index" = .ok usersIndex) ∧
    ('@' ∉ "app".toList ∧ Text.colonsAtEnd "app".toList % 2 = 0 ∧
      (c.resolve (qualified "app" "users::index") = .ok usersIndex ∨ ∃ reason,
        c.resolve (qualified "app" "users::index") =
          .error (.unresolvedHandler (qualified "app" "users::index") reason))) ∧
    (c.Ambiguous "index" [usersIndex, postsIndex] ∧
      (ofFiles none (siblings ++ siblings)).Ambiguous "index"
        ([usersIndex, postsIndex] ++ (ofFiles none siblings).found "index")) ∧
    ((segments (path "users::index")).head? ≠ some "crate" ∧
      c.resolve (qualified "crate" "users::index") = .ok usersIndex) := by
  intro c
  have hd : c.resolve "users::index" = .ok usersIndex := by rfl
  have hamb : c.Ambiguous "index" [usersIndex, postsIndex] := ⟨by decide, by rfl⟩
  have hcrate : (segments (path "users::index")).head? ≠ some "crate" := by decide
  have hat : '@' ∉ "app".toList := by decide
  have heven : Text.colonsAtEnd "app".toList % 2 = 0 := by decide
  have hperm : siblings.reverse.Perm siblings := List.reverse_perm siblings
  obtain ⟨hone, -, hroot⟩ := resolve_stable none siblings "users::index"
  obtain ⟨-, hmany, -⟩ := resolve_stable none siblings "index"
  obtain ⟨horder, -, hqualified⟩ := hone usersIndex hd
  exact ⟨⟨hd, hperm, horder _ hperm⟩, ⟨hat, heven, hqualified "app" hat (Or.inl heven)⟩,
    ⟨hamb, hmany _ siblings hamb⟩, hcrate, (hroot hcrate).1 _ hd⟩

end RouteBook.Catalog
