import JuliaBlocks.Proofs.Named
import JuliaBlocks.Proofs.Request.Header
import JuliaBlocks.Snippet

/-!
Header arguments that count as absent. Whichever of them are left out, the request stays the same
but for the arguments it remembers, and the block expands to the same text. Main statement:
`ofHeader_tidied`.
-/

namespace JuliaBlocks

/-- Whether some items of a list that bind nothing are left out of it. -/
inductive Value.Pruned : List Value → List Value → Prop
  | nil : Pruned [] []
  | keeps {items kept : List Value} (item : Value) (hitems : Pruned items kept) :
      Pruned (item :: items) (item :: kept)
  | drops {item : Value} {items kept : List Value} (hitem : ∀ binding, ¬ item.Binds binding)
      (hitems : Pruned items kept) : Pruned (item :: items) kept

theorem Value.exists_pruned (items : List Value) :
    ∃ kept, Pruned items kept ∧ ∀ item ∈ kept, ∃ binding, item.Binds binding := by
  induction items with
  | nil => exact ⟨[], .nil, by simp⟩
  | cons item items ih =>
      obtain ⟨kept, hpruned, hbinding⟩ := ih
      by_cases hitem : ∃ binding, item.Binds binding
      · exact ⟨item :: kept, .keeps item hpruned, List.forall_mem_cons.mpr ⟨hitem, hbinding⟩⟩
      · exact ⟨kept, .drops (not_exists.mp hitem) hpruned, hbinding⟩

/-- Items that bind nothing are not missed. -/
theorem readItems_of_pruned {items kept : List Value} (hpruned : Value.Pruned items kept)
    {bindings : List (String × Value)} (hread : readItems items = .ok bindings) :
    readItems kept = .ok bindings := by
  induction hpruned generalizing bindings with
  | nil => exact hread
  | keeps item _ ih =>
      obtain ⟨read, hitem, hread⟩ := exists_of_bind_ok hread
      rw [readItems, hitem]
      cases read with
      | none => exact ih hread
      | some binding =>
          obtain ⟨others, hothers, hread⟩ := exists_of_bind_ok hread
          cases hread
          dsimp only [bind, Except.bind]
          rw [ih hothers]
          rfl
  | drops hnone _ ih =>
      obtain ⟨read, hitem, hread⟩ := exists_of_bind_ok hread
      cases read with
      | none => exact ih hread
      | some binding => exact absurd ((binds_iff_of_readVariable hitem binding).mpr rfl) (hnone _)

namespace Header

/-- Whether a header argument is as good as absent: its name has no meaning, its text is blank where
a text is taken, it stands for no positive integer where one is, or it names no kind of result. -/
def Idle (name : String) (v : Value) : Prop :=
  match name with
  | "prologue" | "epilogue" | "file" => ∃ s, v.display? = some s ∧ Text.isBlankText s = true
  | "width" | "height" => ∀ n, v.StandsFor n → n ≤ 0
  | "result-type" => ∀ s, v.display? = some s →
      ResultKind.ofName? (Text.lowerAscii (Text.trim s)) = none
  | "session" | "result-params" | "var" => False
  | _ => True

/-- Whether some idle header arguments are left out, and some items among listed variables that
bind nothing. -/
inductive Tidied : Named Value → Named Value → Prop
  | nil : Tidied [] []
  | keeps {params tidy : Named Value} (entry : String × Value) (htidy : Tidied params tidy) :
      Tidied (entry :: params) (entry :: tidy)
  | drops {name : String} {v : Value} {params tidy : Named Value} (hidle : Idle name v)
      (htidy : Tidied params tidy) : Tidied ((name, v) :: params) tidy
  | prunes {items kept : List Value} {params tidy : Named Value}
      (hitems : Value.Pruned items kept) (htidy : Tidied params tidy) :
      Tidied (("var", .list items) :: params) (("var", .list kept) :: tidy)

/-- Whether nothing is left that could be left out. -/
structure Clean (params : Named Value) : Prop where
  busy : ∀ entry ∈ params, ¬ Idle entry.1 entry.2
  binding : ∀ items, ("var", .list items) ∈ params → ∀ item ∈ items, ∃ binding, item.Binds binding

theorem exists_clean (params : Named Value) : ∃ tidy, Tidied params tidy ∧ Clean tidy := by
  induction params with
  | nil => exact ⟨[], .nil, by simp, by simp⟩
  | cons entry params ih =>
      obtain ⟨tidy, htidy, hclean⟩ := ih
      obtain ⟨name, v⟩ := entry
      by_cases hidle : Idle name v
      · exact ⟨tidy, .drops hidle htidy, hclean⟩
      · by_cases hlist : ∃ items, (name, v) = ("var", .list items)
        · obtain ⟨items, hentry⟩ := hlist
          cases hentry
          obtain ⟨kept, hpruned, hbinding⟩ := Value.exists_pruned items
          refine ⟨("var", .list kept) :: tidy, .prunes hpruned htidy, ?_, ?_⟩
          · exact List.forall_mem_cons.mpr ⟨id, hclean.busy⟩
          · intro others hmem
            rcases List.mem_cons.mp hmem with hsame | hmem
            · cases hsame
              exact hbinding
            · exact hclean.binding others hmem
        · refine ⟨(name, v) :: tidy, .keeps _ htidy, ?_, ?_⟩
          · exact List.forall_mem_cons.mpr ⟨hidle, hclean.busy⟩
          · intro items hmem
            rcases List.mem_cons.mp hmem with hsame | hmem
            · exact absurd ⟨items, hsame.symm⟩ hlist
            · exact hclean.binding items hmem

section Lookup

theorem get_cons_self (name : String) (v : Value) (params : Named Value) :
    get ((name, v) :: params) name = v := by
  rw [get, Named.lookup_cons_self, Option.getD_some]

theorem get_cons_of_ne {name other : String} (hne : other ≠ name) (v : Value)
    (params : Named Value) : get ((name, v) :: params) other = get params other := by
  rw [get, get, Named.lookup_cons_of_ne hne]

theorem get_of_not_mem {name : String} {params : Named Value} (hnew : name ∉ params.map (·.1)) :
    get params name = .null := by
  rw [get, Named.lookup_eq_none_iff.mpr hnew, Option.getD_none]

theorem Tidied.names_sublist {params tidy : Named Value} (htidy : Tidied params tidy) :
    (tidy.map (·.1)).Sublist (params.map (·.1)) := by
  induction htidy with
  | nil => exact .slnil
  | keeps entry _ ih => exact ih.cons_cons _
  | drops _ _ ih => exact ih.cons _
  | prunes _ _ ih => exact ih.cons_cons _

/-- What may become of what is found under a name: it stays, it is gone if it was idle, or it has
lost items that bind nothing. -/
inductive Spared (name : String) : Value → Value → Prop
  | kept (v : Value) : Spared name v v
  | dropped {v : Value} (hidle : Idle name v) : Spared name v .null
  | pruned {items kept : List Value} (hname : name = "var") (hitems : Value.Pruned items kept) :
      Spared name (.list items) (.list kept)

theorem Tidied.get_spared {params tidy : Named Value} (htidy : Tidied params tidy)
    (hnames : (params.map (·.1)).Nodup) (name : String) :
    Spared name (get params name) (get tidy name) := by
  induction htidy with
  | nil => exact .kept _
  | keeps entry _ ih =>
      obtain ⟨other, v⟩ := entry
      rw [List.map_cons, List.nodup_cons] at hnames
      by_cases hname : name = other
      · subst hname
        rw [get_cons_self, get_cons_self]
        exact .kept v
      · rw [get_cons_of_ne hname, get_cons_of_ne hname]
        exact ih hnames.2
  | @drops other v params tidy hidle htidy ih =>
      rw [List.map_cons, List.nodup_cons] at hnames
      by_cases hname : name = other
      · subst hname
        -- no second argument of this name comes to light
        have hgone : name ∉ tidy.map (·.1) := fun hmem => hnames.1 (htidy.names_sublist.mem hmem)
        rw [get_cons_self, get_of_not_mem hgone]
        exact .dropped hidle
      · rw [get_cons_of_ne hname]
        exact ih hnames.2
  | prunes hitems _ ih =>
      rw [List.map_cons, List.nodup_cons] at hnames
      by_cases hname : name = "var"
      · subst hname
        rw [get_cons_self, get_cons_self]
        exact .pruned rfl hitems
      · rw [get_cons_of_ne hname, get_cons_of_ne hname]
        exact ih hnames.2

end Lookup

section Parts

variable {v w : Value}

/-- Session and result parameters have no idle values. -/
theorem Spared.eq {name : String} (hname : name = "session" ∨ name = "result-params")
    (hspared : Spared name v w) : w = v := by
  cases hspared with
  | kept => rfl
  | dropped hidle => rcases hname with rfl | rfl <;> exact hidle.elim
  | pruned hvar _ =>
      subst hvar
      simp at hname

theorem Spared.resultKind_eq (hspared : Spared "result-type" v w) :
    resultKind w = resultKind v := by
  cases hspared with
  | kept => rfl
  | dropped hidle =>
      have hidle : ∀ s, v.display? = some s →
        ResultKind.ofName? (Text.lowerAscii (Text.trim s)) = none := hidle
      unfold resultKind
      cases hshown : v.display? with
      | none => rfl
      | some s =>
          dsimp only
          rw [hidle s hshown]
          rfl
  | pruned hname _ => exact absurd hname (by decide)

theorem Spared.optionalText_eq {name : String} (hname : name ∈ ["prologue", "epilogue", "file"])
    (hspared : Spared name v w) {part : Value} (hpart : optionalText v = .ok part) :
    optionalText w = .ok part := by
  cases hspared with
  | kept => exact hpart
  | dropped hidle =>
      have hidle : ∃ s, v.display? = some s ∧ Text.isBlankText s = true := by
        simp only [List.mem_cons, List.not_mem_nil, or_false] at hname
        rcases hname with rfl | rfl | rfl <;> exact hidle
      obtain ⟨s, hs, hblank⟩ := hidle
      cases textFor_of_optionalText hpart with
      | absent => rfl
      | blank => rfl
      | shown _ hshown hnot =>
          rw [hs] at hshown
          cases hshown
          rw [hblank] at hnot
          cases hnot
  | pruned hvar _ =>
      subst hvar
      exact absurd hname (by decide)

theorem Spared.dimension_eq {name : String} (hname : name = "width" ∨ name = "height")
    (hspared : Spared name v w) {usual n : Int} (husual : 0 < usual)
    (hdimension : dimension usual v = .ok n) : dimension usual w = .ok n := by
  cases hspared with
  | kept => exact hdimension
  | dropped hidle =>
      have hidle : ∀ n, v.StandsFor n → n ≤ 0 := by
        rcases hname with rfl | rfl <;> exact hidle
      obtain ⟨hpositive, hstands | ⟨rfl, _⟩⟩ := dimensionFor_of_dimension husual hdimension
      · exact absurd hpositive (Int.not_lt.mpr (hidle n hstands))
      · rfl
  | pruned hvar _ =>
      subst hvar
      simp at hname

theorem Spared.readVariables_eq (hspared : Spared "var" v w) {bindings : List (String × Value)}
    (hread : readVariables v = .ok bindings) : readVariables w = .ok bindings := by
  cases hspared with
  | kept => exact hread
  | dropped hidle => exact hidle.elim
  | pruned _ hitems => exact readItems_of_pruned hitems hread

end Parts

end Header

namespace Request

theorem Taken.tidied {body : String} {params tidy : Named Value} {request : Request}
    (hnames : (params.map (·.1)).Nodup) (htidy : Header.Tidied params tidy)
    (htaken : request.Taken body params) : { request with params := tidy }.Taken body tidy := by
  have hspared := htidy.get_spared hnames
  obtain ⟨n, hwidth, hn⟩ := htaken.width
  obtain ⟨m, hheight, hm⟩ := htaken.height
  exact {
    sameBody := htaken.sameBody
    sameParams := rfl
    kind := htaken.kind.trans (hspared _).resultKind_eq.symm
    session := (hspared "session").eq (.inl rfl) ▸ htaken.session
    prologue := (hspared "prologue").optionalText_eq (by decide) htaken.prologue
    epilogue := (hspared "epilogue").optionalText_eq (by decide) htaken.epilogue
    width := ⟨n, (hspared "width").dimension_eq (.inl rfl) (by decide) hwidth, hn⟩
    height := ⟨m, (hspared "height").dimension_eq (.inr rfl) (by decide) hheight, hm⟩
    results := (hspared "result-params").eq (.inr rfl) ▸ htaken.results
    file := (hspared "file").optionalText_eq (by decide) htaken.file
    bindings := (hspared "var").readVariables_eq htaken.bindings }

/-- Whether the dimensions of a request are positive, and whether its texts, if it has them, have
something in them that is not blank. -/
structure Sensible (request : Request) : Prop where
  dimensions : ∀ v ∈ [request.width, request.height], ∃ n, v = .int n ∧ 1 ≤ n
  texts : ∀ v ∈ [request.prologue, request.epilogue, request.graphicsFile],
    v = .null ∨ ∃ s, v = .text s ∧ ∃ c ∈ s.toList, Text.isBlank c = false

theorem Follows.sensible {body : String} {params : Named Value} {request : Request}
    (hfollows : request.Follows body params) : request.Sensible := by
  have htext {v part : Value} (hfor : Header.TextFor v part) :
      part = .null ∨ ∃ s, part = .text s ∧ ∃ c ∈ s.toList, Text.isBlank c = false := by
    cases hfor with
    | absent => exact .inl rfl
    | blank => exact .inl rfl
    | shown _ _ hs =>
        rw [Text.isBlankText, List.all_eq_false] at hs
        simp only [Bool.not_eq_true] at hs
        exact .inr ⟨_, rfl, hs⟩
  obtain ⟨n, hwidth, hn⟩ := hfollows.width
  obtain ⟨m, hheight, hm⟩ := hfollows.height
  constructor
  · simp only [List.forall_mem_cons]
    exact ⟨⟨n, hn, hwidth.1⟩, ⟨m, hm, hheight.1⟩, by simp⟩
  · simp only [List.forall_mem_cons]
    exact ⟨htext hfollows.prologue, htext hfollows.epilogue, htext hfollows.file, by simp⟩

/-- Idle header arguments count as absent, and listed items that bind nothing are not there: when
a request can be made, it can be made without any of them, or without all, and is the same but for
the arguments it remembers. It expands bodies to the same texts. Whatever the arguments, its
dimensions are positive and its texts not blank. -/
theorem ofHeader_tidied {body : String} {params : Named Value} {request : Request}
    (hnames : (params.map (·.1)).Nodup) (hrequest : ofHeader body params = .ok request) :
    (∃ tidy, Header.Tidied params tidy ∧ Header.Clean tidy) ∧
    (∀ tidy, Header.Tidied params tidy →
      ofHeader body tidy = .ok { request with params := tidy } ∧
      ∀ other lines file, Snippet.expandBody other { request with params := tidy } lines file =
        Snippet.expandBody other request lines file) ∧
    request.Sensible := by
  have htaken := taken_of_ofHeader hrequest
  refine ⟨Header.exists_clean params, ?_, htaken.follows.sensible⟩
  intro tidy htidy
  exact ⟨ofHeader_of_taken (htaken.tidied hnames htidy), fun _ _ _ => rfl⟩

/-- Of eight header arguments four are idle, and of four items among the variables three. -/
theorem ofHeader_tidied_motley :
    let results := ("result-params", Value.text "file graphics")
    let params := [("width", .bool false), ("height", .text " 3_0 "), ("prologue", .text " \t"),
      results, ("result-type", .octets []), ("file", .text "plot.svg"),
      ("cache", .float (.infinity true)),
      ("var", .list [.text "none", .int 5, .text "n = 12", .list [.text "x"]])]
    let tidy := [("height", .text " 3_0 "), results, ("file", .text "plot.svg"),
      ("var", .list [.text "n = 12"])]
    (params.map (·.1)).Nodup ∧ Header.Tidied params tidy ∧
    ∃ request, ofHeader "plot(n)" params = .ok request ∧
      ofHeader "plot(n)" tidy = .ok { request with params := tidy } ∧
      Snippet.expandBody "plot(n)" { request with params := tidy } =
        .ok "n = 12\nplot(n)\nplot!(size = (600, 30))\nsavefig(\"plot.svg\")" := by
  intro results params tidy
  have hnames : (params.map (·.1)).Nodup := by decide
  have hrequest : ofHeader "plot(n)" params = .ok {
      body := "plot(n)", height := .int 30, resultParams := ["file", "graphics"],
      graphicsFile := .text "plot.svg", bindings := [("n", .int 12)], params } := rfl
  have hfree {item : Value} (hitem : readVariable item = .ok none) (binding : String × Value) :
      ¬ item.Binds binding :=
    fun hbinds => nomatch (binds_iff_of_readVariable hitem binding).mp hbinds
  have hwidth : Header.Idle "width" (.bool false) := by
    rintro n ⟨⟩
    decide
  have hkind : Header.Idle "result-type" (.octets []) := by
    intro s hs
    cases hs
    rfl
  have htidy : Header.Tidied params tidy :=
    .drops hwidth <| .keeps _ <| .drops ⟨_, rfl, rfl⟩ <| .keeps _ <| .drops hkind <| .keeps _ <|
      .drops trivial <| .prunes (.drops (hfree rfl) <| .drops (hfree rfl) <| .keeps _ <|
        .drops (hfree rfl) .nil) .nil
  obtain ⟨_, hsame, _⟩ := ofHeader_tidied hnames hrequest
  obtain ⟨htidied, hexpand⟩ := hsame tidy htidy
  exact ⟨hnames, htidy, _, hrequest, htidied, (hexpand "plot(n)" none none).trans rfl⟩

end Request

end JuliaBlocks
