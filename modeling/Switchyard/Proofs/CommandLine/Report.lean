import Switchyard.CommandLine.Arguments
import Switchyard.Proofs.Router.Trace

/-!
# The report of a search

Two runs of one search are compared, with the switch for a report and without. The switch reaches no
other part of the command (`Command.parse_traced`): whatever arguments give without it, they give
behind it. The answers then differ in the report alone, and only for a search that finds a route
(`Command.trace_reports_match`). A search that finds none ends in an error, an error leaves no output,
and the report that was made before is lost.
-/

namespace Switchyard

namespace Arguments

/-! ## Arguments behind the switch -/

variable {given next : Given}

namespace Given

variable {verb : Verb}

/-- What has been given, and the switch for a report besides. -/
def traced (given : Given) : Given := { given with trace := true }

@[simp] theorem plain_traced (given : Given) : given.traced.plain = given.plain := rfl

@[simp] theorem isVerbose_traced (given : Given) : given.traced.isVerbose = given.isVerbose := rfl

@[simp] theorem method_traced (given : Given) : given.traced.method = given.method := rfl

theorem addPlain_traced {text : String} (h : given.addPlain verb text = .ok next)
    (huntraced : next.trace = false) :
    given.trace = false ∧ given.traced.addPlain verb text = .ok next.traced := by
  unfold addPlain at h ⊢
  rw [plain_traced]
  split at h
  · cases h
  · rename_i hroom
    obtain rfl := Except.ok.inj h
    exact ⟨huntraced, if_neg hroom⟩

theorem addAllPlain_traced {texts : List String} (h : given.addAllPlain verb texts = .ok next)
    (huntraced : next.trace = false) :
    given.trace = false ∧ given.traced.addAllPlain verb texts = .ok next.traced := by
  induction texts generalizing given with
  | nil =>
    obtain rfl := Except.ok.inj h
    exact ⟨huntraced, rfl⟩
  | cons text rest ih =>
    rw [addAllPlain] at h ⊢
    split at h
    · cases h
    · rename_i mid hmid
      obtain ⟨hmidUntraced, hrest⟩ := ih h
      obtain ⟨hgiven, hplain⟩ := addPlain_traced hmid hmidUntraced
      rw [hplain]
      exact ⟨hgiven, hrest⟩

theorem setMethod_traced {method : String} (h : given.setMethod method = .ok next)
    (huntraced : next.trace = false) :
    given.trace = false ∧ given.traced.setMethod method = .ok next.traced := by
  unfold setMethod at h ⊢
  rw [method_traced]
  split at h
  · cases h
  · rename_i hfirst
    obtain rfl := Except.ok.inj h
    exact ⟨huntraced, if_neg hfirst⟩

theorem setSwitch_traced {verb : Option Verb} {name : String}
    (h : given.setSwitch verb name = .ok next) (huntraced : next.trace = false) :
    given.trace = false ∧ given.traced.setSwitch verb name = .ok next.traced := by
  unfold setSwitch at h ⊢
  rw [isVerbose_traced]
  split at h
  · cases h
  · rename_i hhelp
    rw [if_neg hhelp]
    split at h
    · rename_i hverbose
      rw [if_pos hverbose]
      split at h
      · cases h
      · rename_i hfirst
        obtain rfl := Except.ok.inj h
        exact ⟨huntraced, if_neg hfirst⟩
    · split at h
      · split at h
        · cases h
        · -- Had this been the switch for a report, it would show in the end.
          obtain rfl := Except.ok.inj h
          cases huntraced
      · cases h

end Given

open Given

variable {wanted : Wanted}

/-- A step that leaves nothing wanted, once it goes behind the switch. -/
theorem map_nothing_traced {step stepTraced : Except NoCommand Given}
    (hstep : ∀ {next}, step = .ok next → next.trace = false →
      given.trace = false ∧ stepTraced = .ok next.traced)
    (h : step.map (·, Wanted.nothing) = .ok (next, wanted)) (huntraced : next.trace = false) :
    given.trace = false ∧ stepTraced.map (·, Wanted.nothing) = .ok (next.traced, wanted) := by
  cases step with
  | error reason => cases h
  | ok mid =>
    cases h
    obtain ⟨hgiven, htraced⟩ := hstep rfl huntraced
    exact ⟨hgiven, congrArg (Except.map (·, Wanted.nothing)) htraced⟩

theorem readLetters_traced {verb : Option Verb} {letters : List Char}
    (h : readLetters verb given letters = .ok (next, wanted)) (huntraced : next.trace = false) :
    given.trace = false ∧ readLetters verb given.traced letters = .ok (next.traced, wanted) := by
  fun_induction readLetters verb given letters with
  | case1 given =>
    cases h
    exact ⟨huntraced, rfl⟩
  | case2 given c hmethod =>
    cases h
    exact ⟨huntraced, by rw [readLetters, if_pos hmethod]⟩
  | case3 given c hmethod value =>
    rw [readLetters, if_pos hmethod]
    exact map_nothing_traced setMethod_traced h huntraced
  | case4 given c hmethod value hne heq =>
    rw [readLetters, if_pos hmethod]
    · exact map_nothing_traced setMethod_traced h huntraced
    · exact hne
    · exact heq
  | case5 => cases h
  -- A letter is read as a switch, and the rest behind it with whatever that set.
  | case6 given c rest hswitch mid hmid ih =>
    obtain ⟨hmidUntraced, hrest⟩ := ih h
    obtain ⟨hgiven, htraced⟩ := setSwitch_traced hmid hmidUntraced
    unfold readLetters
    rw [if_neg hswitch, htraced]
    exact ⟨hgiven, hrest⟩

theorem readLong_traced {verb : Option Verb} {text : List Char}
    (h : readLong verb given text = .ok (next, wanted)) (huntraced : next.trace = false) :
    given.trace = false ∧ readLong verb given.traced text = .ok (next.traced, wanted) := by
  unfold readLong at h ⊢
  generalize Text.cut '=' text = pieces at h ⊢
  obtain ⟨name, value?⟩ := pieces
  dsimp only at h ⊢
  split at h
  · rename_i hmethod
    rw [if_pos hmethod]
    cases value? with
    | some value => exact map_nothing_traced setMethod_traced h huntraced
    | none =>
      cases h
      exact ⟨huntraced, rfl⟩
  · rename_i hswitch
    rw [if_neg hswitch]
    cases value? with
    | some value => cases h
    | none => exact map_nothing_traced setSwitch_traced h huntraced

theorem readOption_traced {verb : Option Verb} {text : String}
    (h : readOption verb given text = .ok (next, wanted)) (huntraced : next.trace = false) :
    given.trace = false ∧ readOption verb given.traced text = .ok (next.traced, wanted) := by
  unfold readOption at h ⊢
  split at h
  · exact readLong_traced h huntraced
  · exact readLetters_traced h huntraced
  · cases h

/-- What arguments give without the switch for a report, they give behind it. -/
theorem readAll_traced {verb : Verb} {arguments : List String}
    (h : readAll verb given arguments = .ok next) (huntraced : next.trace = false) :
    given.trace = false ∧ readAll verb given.traced arguments = .ok next.traced := by
  -- Each argument is read alike from both states; what is wanted next never depends on the report.
  fun_induction readAll verb given arguments with
  | case1 given =>
    cases h
    exact ⟨huntraced, rfl⟩
  | case2 given rest =>
    rw [readAll, if_pos rfl]
    exact addAllPlain_traced h huntraced
  | case3 => cases h
  | case4 given text rest hmark hoption mid hmid ih =>
    obtain ⟨hmidUntraced, hrest⟩ := ih h
    obtain ⟨hgiven, htraced⟩ := readOption_traced hmid hmidUntraced
    unfold readAll
    rw [if_neg hmark, if_pos hoption, htraced]
    exact ⟨hgiven, hrest⟩
  | case5 => cases h
  | case6 => cases h
  | case7 => cases h
  | case8 given text hmark hoption mid hmid value rest hvalue last hlast ih =>
    -- An option that wants a value takes the next argument.
    obtain ⟨hlastUntraced, hrest⟩ := ih h
    obtain ⟨hmidUntraced, hmethod⟩ := setMethod_traced hlast hlastUntraced
    obtain ⟨hgiven, htraced⟩ := readOption_traced hmid hmidUntraced
    unfold readAll
    rw [if_neg hmark, if_pos hoption, htraced]
    dsimp only
    rw [if_neg hvalue, hmethod]
    exact ⟨hgiven, hrest⟩
  | case9 => cases h
  | case10 given text rest hmark hoption mid hmid ih =>
    obtain ⟨hmidUntraced, hrest⟩ := ih h
    obtain ⟨hgiven, htraced⟩ := addPlain_traced hmid hmidUntraced
    unfold readAll
    rw [if_neg hmark, if_neg hoption, htraced]
    exact ⟨hgiven, hrest⟩

/-- A search that the arguments ask for is asked for behind the switch, with a report. -/
theorem command_traced {config url method : String} {trace : Bool}
    (h : command .find given = .ok (.find config url method trace)) :
    given.trace = trace ∧ command .find given.traced = .ok (.find config url method true) := by
  unfold command at h ⊢
  rw [plain_traced]
  split at h
  · cases h
    exact ⟨rfl, rfl⟩
  all_goals cases h

end Arguments

namespace Command

section

open Arguments

/-- Behind the switch for a report, the arguments of a search without one ask for that search with a
report. -/
theorem parse_traced {arguments : List String} {config url method : String}
    (h : Command.parse ("match" :: arguments) = .ok (.find config url method false)) :
    Command.parse ("match" :: "--trace" :: arguments) = .ok (.find config url method true) := by
  have hsearch : ∀ rest, Command.parse ("match" :: rest) =
      (readAll .find {} rest).bind (command .find) := by
    intro rest
    simp only [Command.parse, readTop, show Verb.ofName? "match" = some .find from rfl]
    cases readAll .find {} rest <;> rfl
  -- The switch in front sets the report, and nothing else is different from then on.
  have hswitch : readAll .find {} ("--trace" :: arguments) =
      readAll .find ({} : Given).traced arguments := rfl
  rw [hsearch] at h ⊢
  cases hread : readAll .find {} arguments with
  | error reason =>
    rw [hread] at h
    cases h
  | ok given =>
    rw [hread] at h
    obtain ⟨huntraced, hcommand⟩ := command_traced h
    rw [hswitch, (readAll_traced hread huntraced).2]
    exact hcommand

end

/-! ## The two answers -/

/-- The line of a parameter. -/
def paramLine (entry : String × String) : String := "  " ++ entry.1 ++ " = " ++ entry.2 ++ "\n"

theorem intercalate_newline (line : String) (lines : List String) :
    "\n".intercalate (line :: lines) ++ "\n" = line ++ "\n" ++ String.join (lines.map (· ++ "\n")) := by
  induction lines generalizing line with
  | nil => simp
  | cons next rest ih =>
    rw [String.intercalate_cons_cons, String.append_assoc, ih, List.map_cons, String.join_cons]

/-- A match is written on a line for its route and one for each parameter. -/
theorem showMatch_newline {found : RouteMatch} {name : String} (hname : found.routeName = some name) :
    showMatch found ++ "\n" =
      "route: " ++ name ++ "\n" ++ String.join (found.params.entries.map paramLine) := by
  rw [showMatch, intercalate_newline, hname, List.map_map]
  rfl

variable {config url method : String} {content : FileContent} {router : Router}

theorem answer_of_found {found : RouteMatch} (hload : Router.load config content = .ok router)
    (hfind : router.find (Http.requestOf method url) = .ok found) (trace : Bool) :
    (Command.find config url method trace).answer content =
      ⟨0, (if trace then (router.trace (Http.requestOf method url)).display ++ "\n\n" else "") ++
        (showMatch found ++ "\n"), ""⟩ := by
  have houtput : (Command.find config url method trace).output content = .ok
      ((if trace then (router.trace (Http.requestOf method url)).display ++ "\n\n" else "") ++
        showMatch found) := by
    simp only [output, Command.config, hload, outputOn, hfind, Except.mapError, Except.map]
  rw [answer, houtput]
  dsimp only
  rw [String.append_assoc]

/-- Without a match nothing of a report is left. -/
theorem answer_of_missed {cause : RouteError} (hload : Router.load config content = .ok router)
    (hfind : router.find (Http.requestOf method url) = .error cause) (trace : Bool) :
    (Command.find config url method trace).answer content =
      ⟨1, "", "error: " ++ cause.message ++ "\n"⟩ := by
  have houtput : (Command.find config url method trace).output content = .error (.routing cause) := by
    simp only [output, Command.config, hload, outputOn, hfind, Except.mapError, Except.map]
  rw [answer, houtput]
  rfl

/-- A search asked for with a report ends as the same search without one: with the same code and the
same error. If the trace has a winner, both searches name it first and then its parameters, and the
report comes before that, with an empty line between. If it has none, the search with the report has
no output either. -/
theorem trace_reports_match (hload : Router.load config content = .ok router) :
    (∀ arguments, Command.parse ("match" :: arguments) = .ok (.find config url method false) →
      Command.parse ("match" :: "--trace" :: arguments) = .ok (.find config url method true)) ∧
    ((Command.find config url method true).answer content).code =
      ((Command.find config url method false).answer content).code ∧
    ((Command.find config url method true).answer content).stderr =
      ((Command.find config url method false).answer content).stderr ∧
    (∀ name, (router.trace (Http.requestOf method url)).matched = some name →
      ∃ found, router.find (Http.requestOf method url) = .ok found ∧
        (Command.find config url method false).answer content =
          ⟨0, "route: " ++ name ++ "\n" ++ String.join (found.params.entries.map paramLine), ""⟩ ∧
        ((Command.find config url method true).answer content).stdout =
          (router.trace (Http.requestOf method url)).display ++ "\n\n" ++
            ((Command.find config url method false).answer content).stdout) ∧
    ((router.trace (Http.requestOf method url)).matched = none →
      ∃ cause, router.find (Http.requestOf method url) = .error cause ∧
        ∀ trace, (Command.find config url method trace).answer content =
          ⟨1, "", "error: " ++ cause.message ++ "\n"⟩) := by
  refine ⟨fun _ => parse_traced, ?_⟩
  cases hmatched : (router.trace (Http.requestOf method url)).matched with
  | some name =>
    obtain ⟨found, hfind, hname⟩ := (router.matched_iff_find _ name).mp hmatched
    have hplain := answer_of_found hload hfind false
    have htraced := answer_of_found hload hfind true
    rw [showMatch_newline hname] at hplain htraced
    rw [hplain, htraced]
    refine ⟨rfl, rfl, fun other hother => ?_, fun hnone => (Option.some_ne_none _ hnone).elim⟩
    obtain rfl := Option.some.inj hother
    exact ⟨found, hfind, by simp, by simp⟩
  | none =>
    obtain ⟨cause, hfind⟩ := (router.matched_eq_none_iff _).mp hmatched
    have hanswer := answer_of_missed hload hfind
    rw [hanswer, hanswer]
    exact ⟨rfl, rfl, fun _ hsome => (Option.some_ne_none _ hsome.symm).elim,
      fun _ => ⟨cause, hfind, hanswer⟩⟩

/-- A configuration with one route, which takes one method. -/
def inbox : FileContent :=
  .ok (Text.Utf8.encode "routes:\n  in:\n    path: /\n    methods: [POST]\n".toList)

/-- The traces of a request with that method and of a request with another. -/
theorem inbox_traces : ∃ router, Router.load "r.yaml" inbox = .ok router ∧
    router.trace (Http.requestOf "POST" "/") = ⟨"/", [⟨"in", .matched⟩], some "in"⟩ ∧
    router.trace (Http.requestOf "GET" "/") = ⟨"/", [⟨"in", .rejected .method⟩], none⟩ := by
  have hcomputed : (Router.load "r.yaml" inbox).toOption.map (fun router =>
      (router.trace (Http.requestOf "POST" "/"), router.trace (Http.requestOf "GET" "/"))) =
      some (⟨"/", [⟨"in", .matched⟩], some "in"⟩, ⟨"/", [⟨"in", .rejected .method⟩], none⟩) := by
    decide +kernel
  cases hload : Router.load "r.yaml" inbox with
  | error cause =>
    rw [hload] at hcomputed
    cases hcomputed
  | ok router =>
    rw [hload] at hcomputed
    obtain ⟨hpost, hget⟩ := Prod.mk.inj (Option.some.inj hcomputed)
    exact ⟨router, rfl, hpost, hget⟩

/-- The report on a request that the route takes comes before the match. -/
theorem inbox_reported :
    Command.parse ["match", "--trace", "r.yaml", "/", "-m", "POST"] =
      .ok (.find "r.yaml" "/" "POST" true) ∧
    ((Command.find "r.yaml" "/" "POST" true).answer inbox).stdout =
      "dispatch /\n=> in: matched\nmatched in\n\n" ++
        ((Command.find "r.yaml" "/" "POST" false).answer inbox).stdout := by
  obtain ⟨router, hload, hpost, -⟩ := inbox_traces
  obtain ⟨hparse, -, -, hmatched, -⟩ :=
    @trace_reports_match "r.yaml" "/" "POST" inbox router hload
  obtain ⟨-, -, -, htraced⟩ := hmatched "in" (congrArg Trace.matched hpost)
  exact ⟨hparse ["r.yaml", "/", "-m", "POST"] rfl, by rw [htraced, hpost]; rfl⟩

/-- The report on a request that no route takes is not written. -/
theorem inbox_report_lost : ∃ router, Router.load "r.yaml" inbox = .ok router ∧
    (router.trace (Http.requestOf "GET" "/")).display =
      "dispatch /\n   in: method rejected\nno route matched" ∧
    ((Command.find "r.yaml" "/" "GET" true).answer inbox).stdout = "" := by
  obtain ⟨router, hload, -, hget⟩ := inbox_traces
  obtain ⟨cause, hfind⟩ := (router.matched_eq_none_iff _).mp (congrArg Trace.matched hget)
  exact ⟨router, hload, by rw [hget]; rfl, by rw [answer_of_missed hload hfind]⟩

end Command

end Switchyard
