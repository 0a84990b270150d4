import KubeManifest.CommandLine.Run
import KubeManifest.Proofs.Console.Panel

/-!
# Reports of failures

A failure is shown as text with tags, and what its message holds is taken for tags as well. The message is shown as
a whole exactly if it is literal; where its tags do not fit together, nothing is shown at all.

* `Screen.plain?_failure` : what is shown of a failure;
* `run_of_fails` : a failure is shown and ends with the status 1, or its tags end the program;
* `Outcome.Reports` : a failure that is reported, with its whole message;
* `run_reports_iff` : which failures of a command line are reported;
* `not_reports_badShape`, `not_reports_unparsable` : failures whose own wording holds a tag.
-/

namespace KubeManifest

namespace CommandLine

open Console (Panel)
open Console.Markup

variable {files : Files} {args : List String} {o : GenerateOptions} {f : Failure} {name message : String}
  {below : List Char}

/-! ## What is shown of a failure -/

/-- The names of failures mean nothing to a console. -/
theorem name_unmarked (h : f.title = some name) : marks name.toList = 0 := by
  cases f <;> cases h <;> decide +kernel

namespace Screen

/-- What stands below a message is cut by itself, but for the end of the message's line. -/
theorem pieces_append_place (f : Failure) :
    ∃ sep ps, (sep = [] ∨ sep = ['\n']) ∧ ∀ cs, pieces (cs ++ (place f).toList) = pieces (cs ++ sep) ++ ps := by
  unfold place
  split
  · rename_i path _
    split
    · exact ⟨[], [], .inl rfl, fun cs => by simp⟩
    · refine ⟨['\n'], .tag "dim".toList :: pieces (path ++ "[/dim]").toList, .inr rfl, fun cs => ?_⟩
      have htag : IsTag "dim".toList := by decide +kernel
      have hplace : ("\n[dim]" ++ path ++ "[/dim]").toList =
          '\n' :: (bracketed "dim".toList ++ (path ++ "[/dim]").toList) := by
        simp [bracketed]
      have hcut := pieces_append_tag htag
        (show (cs ++ ['\n']).getLast? ≠ some '\\' by simp) (path ++ "[/dim]").toList
      rwa [List.append_assoc, List.singleton_append, ← hplace] at hcut
  · exact ⟨[], [], .inl rfl, fun cs => by simp⟩

/-- The end of a message's line is as literal as the message. -/
theorem literal_message_iff {sep : List Char} (hsep : sep = [] ∨ sep = ['\n']) (cs : List Char) :
    Literal (':' :: ' ' :: cs ++ sep) ↔ Literal cs := by
  rw [List.cons_append, List.cons_append, literal_colon_iff]
  rcases hsep with rfl | rfl
  · rw [List.append_nil]
  · exact literal_newline_iff

theorem literal_sep {sep : List Char} (hsep : sep = [] ∨ sep = ['\n']) : Literal sep := by
  refine literal_of_unmarked ?_
  rcases hsep with rfl | rfl <;> rfl

/-- A literal message is shown as it is, above its file. -/
theorem shown_of_literal (hbelow : plain? (place f) = some below) {cs : List Char} (h : Literal cs) :
    shownFrom? [] (pieces (':' :: ' ' :: cs ++ (place f).toList)) = some (':' :: ' ' :: cs ++ below) := by
  obtain ⟨sep, ps, hsep, hplace⟩ := pieces_append_place f
  have hempty : pieces (place f).toList = pieces sep ++ ps := by simpa using hplace []
  rw [plain?, hempty, (literal_sep hsep).shownFrom?_append] at hbelow
  obtain ⟨shown, hshown, rfl⟩ := Option.map_eq_some_iff.mp hbelow
  rw [hplace, ((literal_message_iff hsep cs).mpr h).shownFrom?_append, hshown, Option.map_some, List.append_assoc]

/-- A message that is shown with all its marks is literal. -/
theorem literal_of_shown {cs s : List Char} (hbelow : plain? (place f) = some below)
    (hs : shownFrom? [] (pieces (':' :: ' ' :: cs ++ (place f).toList)) = some s)
    (hmarks : marks (':' :: ' ' :: cs ++ below) ≤ marks s) : Literal cs := by
  obtain ⟨sep, ps, hsep, hplace⟩ := pieces_append_place f
  have hempty : pieces (place f).toList = pieces sep ++ ps := by simpa using hplace []
  have hbelow' : below = sep ++ texts ps := by
    rw [shownFrom?_eq_some hbelow, hempty, texts_append, literal_iff.mp (literal_sep hsep)]
  have hs' : s = texts (pieces (':' :: ' ' :: cs ++ sep)) ++ texts ps := by
    rw [shownFrom?_eq_some hs, hplace, texts_append]
  -- What stands below has the same marks in both texts.
  rw [hbelow', hs', ← List.append_assoc, marks_append, marks_append _ (texts ps)] at hmarks
  exact (literal_message_iff hsep cs).mp (literal_of_marks_le (by omega))

/-- What is shown of a failure: its name, and what is shown of the rest. -/
theorem plain?_failure (htitle : f.title = some name) (message : String) :
    plain? ("[bold red]" ++ name ++ "[/bold red]: " ++ message ++ place f) =
      (shownFrom? [] (pieces (':' :: ' ' :: message.toList ++ (place f).toList))).map (name.toList ++ ·) := by
  have hname := literal_of_unmarked (name_unmarked htitle)
  have hcontent : ("[bold red]" ++ name ++ "[/bold red]: " ++ message ++ place f).toList =
      [] ++ (bracketed "bold red".toList ++ (name.toList ++ (bracketed "/bold red".toList ++
        (':' :: ' ' :: message.toList ++ (place f).toList)))) := by
    simp [bracketed]
  have hopen : IsTag "bold red".toList := by decide +kernel
  have hclose : IsTag "/bold red".toList := by decide +kernel
  have hslash : name.toList.getLast? ≠ some '\\' := fun hlast =>
    absurd (marks_eq_zero.mp (name_unmarked htitle) _ (List.mem_of_getLast? hlast)) (by decide)
  have hopened : closed? [] "bold red".toList = some ["bold red"] := by decide +kernel
  have hclosed : closed? ["bold red"] "/bold red".toList = some [] := by decide +kernel
  have hempty : pieces [] = [] := by simp [pieces, piecesFrom_nil, textPiece]
  rw [plain?, hcontent, pieces_append_tag hopen (by simp), pieces_append_tag hclose hslash, hempty, List.nil_append,
    shownFrom?_tag hopened, hname.shownFrom?_append, shownFrom?_tag hclosed]

/-- The lines of a failure show what the tags leave of it. -/
theorem failure_shows (htitle : f.title = some name) (hmessage : f.message = some message) {s : List Char}
    (hs : shownFrom? [] (pieces (':' :: ' ' :: message.toList ++ (place f).toList)) = some s) :
    ∃ lines, failure name f = some lines ∧ Panel.Shows lines (name.toList ++ s) := by
  have hcaption : Panel.caption? "[bold red]Generation Failed[/bold red]" = some " Generation Failed ".toList := by
    decide +kernel
  unfold failure
  refine Panel.lines?_shows (by decide) rfl hcaption ?_
  rw [hmessage, Option.getD_some, plain?_failure htitle, hs, Option.map_some]

theorem shown_of_failure (htitle : f.title = some name) (hmessage : f.message = some message)
    {lines : List (List Char)} (h : failure name f = some lines) :
    ∃ s, shownFrom? [] (pieces (':' :: ' ' :: message.toList ++ (place f).toList)) = some s := by
  obtain ⟨content, hcontent, -⟩ := Option.bind_eq_some_iff.mp h
  dsimp only at hcontent
  rw [hmessage, Option.getD_some, plain?_failure htitle] at hcontent
  obtain ⟨s, hs, -⟩ := Option.map_eq_some_iff.mp hcontent
  exact ⟨s, hs⟩

end Screen

/-! ## Reports -/

/-- A command line that fails: there is no configuration, or the run ends with a failure. -/
inductive GenerateOptions.Fails (o : GenerateOptions) (files : Files) (f : Failure) : Prop
  | load (h : o.load files = .error f)
  | generate {config files'} (hload : o.load files = .ok config)
    (hrun : config.generate o.dryRun files = (files', .error f))

/-- An outcome that reports a failure: its status is 1, and what is printed shows the whole text and, below it, what
is shown of the file that the failure is about. -/
structure Outcome.Reports (out : Outcome) (text : String) (f : Failure) : Prop where
  status : out.ending = .status 1
  shows : ∃ below, plain? (Screen.place f) = some below ∧ Panel.Shows out.lines (text.toList ++ below)

/-- A command line that fails shows the failure, or ends itself with a failure of its tags. -/
theorem run_of_fails (hparse : Request.parse? args = some (.generate o)) (hfails : o.Fails files f)
    (htitle : f.title = some name) :
    (∃ lines, Screen.failure name f = some lines ∧ (run files args).lines = lines ∧
      (run files args).ending = .status 1) ∨
    Screen.failure name f = none ∧ (run files args).lines = [] ∧ (run files args).ending = .failed .badMarkup := by
  have hofFailure (files' : Files) : Outcome.ofFailure files' f = Outcome.print files' 1 [Screen.failure name f] := by
    rw [Outcome.ofFailure, htitle]
  have hrun : ∃ files', run files args = Outcome.print files' 1 [Screen.failure name f] := by
    rw [run, hparse]
    dsimp only
    unfold CommandLine.generate
    cases hfails with
    | load h => exact ⟨files, by rw [h]; exact hofFailure files⟩
    | @generate config files' hload hrun =>
      refine ⟨files', ?_⟩
      rw [hload]
      dsimp only
      rw [hrun]
      exact hofFailure files'
  obtain ⟨files', hrun⟩ := hrun
  rw [hrun]
  cases hfailure : Screen.failure name f with
  | none => exact .inr ⟨rfl, rfl, rfl⟩
  | some lines => exact .inl ⟨lines, rfl, List.append_nil lines, rfl⟩

theorem text_append (name message : String) (below : List Char) :
    (name ++ ": " ++ message).toList ++ below = name.toList ++ (':' :: ' ' :: message.toList ++ below) := by
  simp

/-- A message that is reported is literal. -/
theorem literal_of_reports (hparse : Request.parse? args = some (.generate o)) (hfails : o.Fails files f)
    (htitle : f.title = some name) (hmessage : f.message = some message)
    (h : (run files args).Reports (name ++ ": " ++ message) f) : Literal message.toList := by
  obtain ⟨hstatus, below, hbelow, hshows⟩ := h
  rcases run_of_fails hparse hfails htitle with ⟨lines, hfailure, hlines, -⟩ | ⟨-, -, hending⟩
  · obtain ⟨s, hs⟩ := Screen.shown_of_failure htitle hmessage hfailure
    obtain ⟨lines', hfailure', hshown⟩ := Screen.failure_shows htitle hmessage hs
    obtain rfl := Option.some.inj (hfailure.symm.trans hfailure')
    -- What is printed has the marks of the whole text.
    rw [hlines, text_append] at hshows
    have hmarks : marks name.toList + marks (':' :: ' ' :: message.toList ++ below) =
        marks name.toList + marks s := by
      rw [← marks_append, ← marks_append]
      exact hshows.marks_eq hshown
    exact Screen.literal_of_shown hbelow hs (by omega)
  · rw [hending] at hstatus
    cases hstatus

/-- A literal message is reported if the tags in the place of its file fit together. -/
theorem reports_of_literal (hparse : Request.parse? args = some (.generate o)) (hfails : o.Fails files f)
    (htitle : f.title = some name) (hmessage : f.message = some message) (hliteral : Literal message.toList)
    (hplace : plain? (Screen.place f) = some below) : (run files args).Reports (name ++ ": " ++ message) f := by
  obtain ⟨lines, hfailure, hshown⟩ := Screen.failure_shows htitle hmessage (Screen.shown_of_literal hplace hliteral)
  rcases run_of_fails hparse hfails htitle with ⟨lines', hfailure', hlines, hstatus⟩ | ⟨hnone, -, -⟩
  · obtain rfl := Option.some.inj (hfailure.symm.trans hfailure')
    refine ⟨hstatus, below, hplace, ?_⟩
    rw [hlines, text_append]
    exact hshown
  · cases hnone.symm.trans hfailure

/-- **A failure of the input is reported with its name and whole message exactly if the message is literal and the
tags in the place of its file fit together.** A message that holds what a console takes for a tag, an escape or
the name of an emoji is not shown as a whole, and where a tag closes none, the program itself ends. -/
theorem run_reports_iff (hparse : Request.parse? args = some (.generate o)) (hfails : o.Fails files f)
    (htitle : f.title = some name) (hmessage : f.message = some message) :
    (run files args).Reports (name ++ ": " ++ message) f ↔
      Literal message.toList ∧ (plain? (Screen.place f)).isSome := by
  constructor
  · intro h
    obtain ⟨below, hbelow, -⟩ := h.shows
    exact ⟨literal_of_reports hparse hfails htitle hmessage h, by rw [hbelow]; rfl⟩
  · rintro ⟨hliteral, hplace⟩
    obtain ⟨below, hbelow⟩ := Option.isSome_iff_exists.mp hplace
    exact reports_of_literal hparse hfails htitle hmessage hliteral hbelow

def webOptions : GenerateOptions where
  config := .ofString GenerateOptions.standardConfig
  appName := .ofString "web"

/-- The configuration of these options where there is no configuration file. -/
def webConfig : Config where
  appName := "web"
  fragmentsDir := ⟨"", ["src", "main", "fabric8"]⟩
  outputDir := ⟨"", ["target", "fabric8"]⟩

/-- A file in the place of the output directory. -/
def occupiedFiles : Files where
  dirs := [[], ["work"], ["work", "target"]]
  contents := [(["work", "target", "fabric8"], .empty)]

set_option maxRecDepth 100000 in
theorem parse?_webOptions : Request.parse? ["generate", "--app-name", "web"] = some (.generate webOptions) := by
  with_unfolding_all rfl

set_option maxRecDepth 100000 in
theorem fails_occupiedFiles : webOptions.Fails occupiedFiles (.badOutput (some "target/fabric8") .notDirectory) := by
  have hload : webOptions.load occupiedFiles = .ok webConfig := by with_unfolding_all rfl
  have hrun : webConfig.generate webOptions.dryRun occupiedFiles =
      (occupiedFiles, .error (.badOutput (some "target/fabric8") .notDirectory)) := by
    with_unfolding_all rfl
  exact .generate hload hrun

set_option maxRecDepth 100000 in
/-- What is said about the output directory is reported. -/
theorem run_reports_iff_occupiedFiles :
    Request.parse? ["generate", "--app-name", "web"] = some (.generate webOptions) ∧
      webOptions.Fails occupiedFiles (.badOutput (some "target/fabric8") .notDirectory) ∧
      (run occupiedFiles ["generate", "--app-name", "web"]).Reports
        ("OutputError" ++ ": " ++ "Output path target/fabric8 is not a directory")
        (.badOutput (some "target/fabric8") .notDirectory) := by
  have hreports := run_reports_iff parse?_webOptions fails_occupiedFiles rfl rfl
  refine ⟨parse?_webOptions, fails_occupiedFiles, hreports.mpr ⟨literal_of_unmarked ?_, ?_⟩⟩
  · decide +kernel
  · decide +kernel

/-! ## Failures that are not reported -/

/-- A failure whose message holds a tag is not reported. -/
theorem not_reports_of_tag {inside : List Char} (hparse : Request.parse? args = some (.generate o))
    (hfails : o.Fails files f) (htitle : f.title = some name) (hmessage : f.message = some message)
    (htag : IsTag inside) (hin : bracketed inside <:+: message.toList) :
    ¬(run files args).Reports (name ++ ": " ++ message) f := by
  intro hreports
  exact (literal_of_reports hparse hfails htitle hmessage hreports).untagged inside htag hin

/-- What is said about a port of no known shape ends with a tag, whatever the port is. -/
theorem not_reports_badShape {spec : String} (hparse : Request.parse? args = some (.generate o))
    (hfails : o.Fails files (.badPort spec .badShape)) :
    ¬(run files args).Reports ("InvalidPortSpec" ++ ": " ++ ("Invalid port mapping '" ++ spec ++ "': " ++
      Failure.portMessage .badShape)) (.badPort spec .badShape) := by
  have htag : IsTag "/protocol".toList := by decide +kernel
  have hshape : Failure.portMessage .badShape = "expected [hostIP:][hostPort:]containerPort" ++ "[/protocol]" := by
    decide +kernel
  have hclose : bracketed "/protocol".toList = "[/protocol]".toList := by decide +kernel
  refine not_reports_of_tag hparse hfails rfl rfl htag ?_
  rw [hshape, ← String.append_assoc, String.toList_append, hclose]
  exact (List.suffix_append _ _).isInfix

/-- The path of a file that cannot be taken for a manifest is a tag as it stands in the message, if it begins with a
small letter or a slash and has no brackets. -/
theorem not_reports_unparsable {path : String} {fault : ParseFault} (hparse : Request.parse? args = some (.generate o))
    (hfails : o.Fails files (.unparsable path fault)) (hmessage : Failure.parseMessage path fault = some message)
    (htag : IsTag path.toList) :
    ¬(run files args).Reports ("ParseError" ++ ": " ++ message) (.unparsable path fault) := by
  refine not_reports_of_tag hparse hfails rfl hmessage htag ?_
  cases fault with
  | unreadable => cases hmessage
  | badYaml => cases hmessage
  | badJson text =>
    obtain rfl := Option.some.inj hmessage
    exact ⟨[], ' ' :: text.toList, by simp [bracketed]⟩
  | notMapping kind =>
    obtain rfl := Option.some.inj hmessage
    exact ⟨[], " top level must be a mapping, not a ".toList ++ kind.toList, by simp [bracketed]⟩
  | noDocuments =>
    obtain rfl := Option.some.inj hmessage
    exact ⟨[], " Cannot load kubernetes YAML: no documents".toList, by simp [bracketed]⟩

end CommandLine

end KubeManifest
