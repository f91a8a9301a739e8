/-
What the command that generates leaves behind. Its folder holds the request and the log before
anything is collected, every stage changes files at the places of its own only, and the output is
written when all of it is there. **So a run that fails leaves no output, in its folder or anywhere
else, and a run that succeeds leaves it everywhere it was asked for**
(`Task.run_ofArguments_leaves`). What the folder says about its run holds more than the request, but
the request is read back from it (`RunFolder.config_form`).
-/
import ValidatorGen.Program
import ValidatorGen.Proofs.Files.Changes
import ValidatorGen.Proofs.Generate.Hookless
import ValidatorGen.Proofs.Stored.Inputs

namespace ValidatorGen

open CommandLine Json

/-! ## Run folders -/

namespace CommandLine.GenerateCommand

/-- The settings file of a command, as it is in a tree. -/
def settingsFile (c : GenerateCommand) (t : FileTree) : Option SettingsText :=
  c.settings.map fun path => ⟨path, t.readText (.ofText path)⟩

/-- The folder of a command that runs. -/
def folder (c : GenerateCommand) (id : String) (time : Nat) : RunFolder :=
  ⟨id, ⟨time⟩, .ofText c.runDir⟩

end CommandLine.GenerateCommand

namespace RunFolder

/-- A folder is new to a command: nothing is in it yet, and the second file is to be elsewhere. -/
structure IsNew (folder : RunFolder) (c : GenerateCommand) (t : FileTree) : Prop where
  vacant : ∀ q, folder.path.place <+: q → t.at? q = none
  outside : ∀ out ∈ c.out, ¬ folder.path.place <+: (Path.ofText out).place

/-- The places of the request and of the log. -/
def places (folder : RunFolder) : List Place := [folder.configPath.place, folder.logPath.place]

/-- The field of the request in what a folder says about its run. -/
def requestField : Member Request := .of "request" .required Request.codec (fun r => r) fun v _ => v

/-- How the request is read from what a folder says about its run. -/
def requestCodec : Codec Request := .record "RunConfig" [requestField] {}

/-- A folder holds the request of its run and a log. -/
structure HoldsRequest (folder : RunFolder) (input : String) (request : Request) (origin : Origin)
    (t : FileTree) : Prop where
  config : t.readText folder.configPath = .ok (folder.config input request origin).pretty
  /-- The request is what is read in its field. -/
  request : ∃ text, t.readText folder.configPath = .ok text ∧
    decodeText requestCodec.decode text = .ok request
  log : ∃ text, t.readText folder.logPath = .ok text

section

variable {folder : RunFolder} {input : String} {request : Request} {origin : Origin}
  {t t' : FileTree}

theorem isLossless_requestField : IsLossless [requestField] Flat 3 where
  names := by decide
  takes := by
    rw [List.forall_mem_singleton]
    exact Member.takes_flat (Request.isLossless.lawful _) (fun _ _ => rfl)
      (by simp [requestField])
  ext := by
    intro a b h
    have hrequest : Request.codec.Lawful 3 := Request.isLossless.lawful _
    exact (hrequest.encode_inj (by decide)).mp (h requestField List.mem_cons_self)

/-- What a folder says about its run is the request and fields of other names. -/
theorem config_form : Form [requestField] {} Flat request (folder.config input request origin) := by
  have hrequest : Form [requestField] {} Flat request
      (.record [("request", Request.codec.encode request)]) := .stored
  show Form _ _ _ _ (.record ([_, _, _, _] ++ ([_] ++ [_])))
  exact hrequest.surrounded (by simp [requestField])

theorem HoldsRequest.of_config (hconfig : t.readText folder.configPath
    = .ok (folder.config input request origin).pretty)
    (hlog : ∃ text, t.readText folder.logPath = .ok text) :
    folder.HoldsRequest input request origin t where
  config := hconfig
  request := by
    have htext : (folder.config input request origin).pretty
        ∈ (folder.config input request origin).texts := by simp [Value.texts]
    exact ⟨_, hconfig, isLossless_requestField.decodeText_form _ (by decide) config_form htext⟩
  log := hlog

end

end RunFolder

namespace Task

/-- Makes the folder of a run, and reads what is to be run. -/
def collect (folder : RunFolder) (c : GenerateCommand) (request : Request) (origin : Origin) :
    Task (Except FileFault String) := do
  openFolder folder c.input request origin
  log folder (.started folder.id Source.fileLabel c.input request.config.dialect.label
    folder.path.text)
  Script.readText (.ofText c.input)

/-- Logs how many rows a source has, if it has any. -/
def logRows (folder : RunFolder) (c : GenerateCommand) (source : Source) : Task Unit :=
  match source.rows with
  | .ok rows => log folder (.rowsLoaded c.input rows.length)
  | .error _ => pure ()

/-- Ends a run with what came of it. -/
def close (folder : RunFolder) (c : GenerateCommand) (request : Request) :
    Except Error Output → Task Unit
  | .error error => do
    log folder (.failed error)
    Script.fail (.run error)
  | .ok output => do
    let time ← Script.now
    log folder (.reported (finished request output (time - folder.started.milliseconds)))
    handOn folder c output (time - folder.started.milliseconds)

/-- What becomes of a run once its input was read. -/
def conclude [PatternEngine] (folder : RunFolder) (c : GenerateCommand) (request : Request)
    (content : Except FileFault String) : Task Unit := do
  let run := produce (.ofFile c.input content) request {}
  logRows folder c (.ofFile c.input content)
  logAll folder (run.diagnostics.map .reported)
  close folder c request run.result

end Task

/-! ## Places -/

section

variable {folder : RunFolder} {c : GenerateCommand} {t t' : FileTree} {time : Nat} {p : Path}
  {name : String}

/-- The name of a folder has a mark that few names have. -/
theorem name_ne (h : '_' ∉ name.toList) : folder.name ≠ name := by
  rintro rfl
  simp [RunFolder.name] at h

theorem place_path : folder.path.place = folder.base.place ++ [folder.name] :=
  place_child (name_ne (by decide))

theorem place_ne {name' : String} (hname : name ≠ "..") (hname' : name' ≠ "..")
    (hne : name ≠ name') : (folder.path.child name).place ≠ (folder.path.child name').place := by
  simp [place_child hname, place_child hname', hne]

theorem prefix_file (h : name ≠ "..") : folder.path.place <+: (folder.path.child name).place := by
  rw [place_child h]
  exact List.prefix_append _ _

/-- A path that does not name the folder does not lead into it. -/
theorem not_prefix_of_unnamed (h : folder.name ∉ p.names) : ¬ folder.path.place <+: p.place := by
  intro hprefix
  have hmem : folder.name ∈ p.place := hprefix.subset (by simp [place_path])
  rcases mem_place hmem with hmem | hmem | hmem
  · exact h hmem
  · exact name_ne (by decide) hmem
  · exact name_ne (by decide) hmem

/-! ## Stages -/

open Script (ChangesAt)

section

variable {places : List Place} {text : String} {request : Request} {origin : Origin}

theorem changesAt_makeDirs : (Task.makeDirs p).ChangesAt places :=
  .makeDirs fun _ => .done _

theorem changesAt_log (folder : RunFolder) (entry : Entry) :
    (Task.log folder entry).ChangesAt [folder.logPath.place] :=
  .clock fun _ => .append List.mem_cons_self fun _ => .done _

theorem changesAt_logAll (folder : RunFolder) (entries : List Entry) :
    (Task.logAll folder entries).ChangesAt [folder.logPath.place] := by
  induction entries with
  | nil => exact .done _
  | cons entry entries ih => exact .bind (changesAt_log folder entry) fun _ => ih

theorem changesAt_logRows (folder : RunFolder) (c : GenerateCommand) (source : Source) :
    (Task.logRows folder c source).ChangesAt [folder.logPath.place] := by
  rw [Task.logRows]
  split
  · exact changesAt_log _ _
  · exact .done _

theorem write_eq_ok (h : (Task.write p text).run time t = (.ok (), t')) :
    FileTree.ChangesAt [p.place] t t' ∧ t'.readText p = .ok text := by
  rw [Task.write, Script.run] at h
  split at h
  · cases h
  · next t₁ hwrite =>
    cases h
    exact FileTree.change_eq_ok hwrite

theorem append_eq_ok (h : (Task.append p text).run time t = (.ok (), t')) :
    FileTree.ChangesAt [p.place] t t' ∧ ∃ whole, t'.readText p = .ok whole := by
  rw [Task.append, Script.run] at h
  split at h
  · cases h
  · next t₁ hwrite =>
    cases h
    exact (FileTree.change_eq_ok hwrite).imp_right fun h => ⟨_, h⟩

/-! ### Making the folder -/

theorem outputPath_ne_logPath : folder.outputPath.place ∉ [folder.logPath.place] := by
  have hne : folder.outputPath.place ≠ folder.logPath.place :=
    place_ne (by decide) (by decide) (by decide)
  simpa using hne

theorem configPath_ne_logPath : folder.configPath.place ∉ [folder.logPath.place] := by
  have hne : folder.configPath.place ≠ folder.logPath.place :=
    place_ne (by decide) (by decide) (by decide)
  simpa using hne

theorem outputPath_not_mem_places : folder.outputPath.place ∉ folder.places := by
  have hne : folder.outputPath.place ≠ folder.configPath.place :=
    place_ne (by decide) (by decide) (by decide)
  rw [RunFolder.places, List.mem_cons, not_or]
  exact ⟨hne, outputPath_ne_logPath⟩

theorem logPath_mem_places : [folder.logPath.place] ⊆ folder.places := by simp [RunFolder.places]

/-- The request and the log are in the folder. -/
theorem prefix_of_mem_places {q : Place} (h : q ∈ folder.places) : folder.path.place <+: q := by
  simp only [RunFolder.places, List.mem_cons, List.not_mem_nil, or_false] at h
  rcases h with rfl | rfl
  · exact prefix_file (by decide : "config.json" ≠ "..")
  · exact prefix_file (by decide : "logs.ndjson" ≠ "..")

/-- Logging keeps the request. -/
theorem RunFolder.HoldsRequest.changesAt {input : String}
    (h : folder.HoldsRequest input request origin t)
    (hchanges : FileTree.ChangesAt [folder.logPath.place] t t') :
    folder.HoldsRequest input request origin t' := by
  obtain ⟨text, hlog⟩ := h.log
  exact .of_config (hchanges.readText_eq configPath_ne_logPath h.config)
    (hchanges.exists_readText hlog)

theorem openFolder_eq_ok {input : String}
    (h : (Task.openFolder folder input request origin).run time t = (.ok (), t')) :
    FileTree.ChangesAt folder.places t t' ∧ folder.HoldsRequest input request origin t' := by
  obtain ⟨_, t₁, hmake, h⟩ := Script.exists_of_run_bind h
  obtain ⟨_, t₂, hwrite, happend⟩ := Script.exists_of_run_bind h
  have hmakes : (Task.makeDirs folder.path).ChangesAt folder.places := changesAt_makeDirs
  have hmade := hmakes time t
  rw [hmake] at hmade
  obtain ⟨hwritten, hconfig⟩ := write_eq_ok hwrite
  obtain ⟨happended, hlog⟩ := append_eq_ok happend
  have hlast : FileTree.ChangesAt folder.places t₂ t' := happended.mono logPath_mem_places
  exact ⟨(hmade.trans (hwritten.mono (by simp [RunFolder.places]))).trans hlast,
    .of_config (happended.readText_eq configPath_ne_logPath hconfig) hlog⟩

/-- **A run that read its input has put the request and the log into its folder**, and no other
files anywhere. -/
theorem collect_eq_ok {content : Except FileFault String}
    (h : (Task.collect folder c request origin).run time t = (.ok content, t')) :
    FileTree.ChangesAt folder.places t t' ∧ folder.HoldsRequest c.input request origin t' := by
  obtain ⟨_, t₁, hopen, h⟩ := Script.exists_of_run_bind h
  obtain ⟨_, t₂, hlog, hread⟩ := Script.exists_of_run_bind h
  obtain ⟨hopened, hholds⟩ := openFolder_eq_ok hopen
  have hlogged := changesAt_log folder (.started folder.id Source.fileLabel c.input
    request.config.dialect.label folder.path.text) time t₁
  rw [hlog] at hlogged
  cases hread
  exact ⟨hopened.trans (hlogged.mono logPath_mem_places), hholds.changesAt hlogged⟩

/-! ### Ending the run -/

/-- Logging never fails. -/
theorem log_run (folder : RunFolder) (entry : Entry) (time : Nat) (t : FileTree) :
    ((Task.log folder entry).run time t).1 = .ok () := by
  rw [Task.log, Script.run, Script.run]
  split <;> rfl

theorem logAll_run (folder : RunFolder) (entries : List Entry) (time : Nat) (t : FileTree) :
    ((Task.logAll folder entries).run time t).1 = .ok () := by
  induction entries generalizing t with
  | nil => rfl
  | cons entry entries ih =>
    rw [Task.logAll, Script.run_bind_of_ok (Prod.ext (log_run folder entry time t) rfl)]
    exact ih _

theorem logRows_run (folder : RunFolder) (c : GenerateCommand) (source : Source) (time : Nat)
    (t : FileTree) : ((Task.logRows folder c source).run time t).1 = .ok () := by
  rw [Task.logRows]
  split
  · exact log_run folder _ time t
  · rfl

/-- All that happens before a run ends with what came of it is logging. -/
theorem conclude_run [PatternEngine] (folder : RunFolder) (c : GenerateCommand) (request : Request)
    (content : Except FileFault String) (time : Nat) (t : FileTree) :
    ∃ t₁, FileTree.ChangesAt [folder.logPath.place] t t₁ ∧
      (Task.conclude folder c request content).run time t
        = (Task.close folder c request
            (produce (.ofFile c.input content) request {}).result).run time t₁ := by
  let source := Source.ofFile c.input content
  let entries := (produce source request {}).diagnostics.map Entry.reported
  refine ⟨_, (changesAt_logRows folder c source time t).trans
    (changesAt_logAll folder entries time _), ?_⟩
  rw [Task.conclude, Script.run_bind_of_ok (Prod.ext (logRows_run folder c source time t) rfl),
    Script.run_bind_of_ok (Prod.ext (logAll_run folder entries time _) rfl)]

/-- A run that failed only logs that it did. -/
theorem close_error (folder : RunFolder) (c : GenerateCommand) (request : Request) (e : Error)
    (time : Nat) (t : FileTree) : ∃ t', FileTree.ChangesAt [folder.logPath.place] t t' ∧
      (Task.close folder c request (.error e)).run time t = (.error (.run e), t') := by
  refine ⟨_, changesAt_log folder (.failed e) time t, ?_⟩
  rw [Task.close, Script.run_bind_of_ok (Prod.ext (log_run folder (.failed e) time t) rfl)]
  rfl

theorem writeCopy_eq_ok {out : Option String}
    (h : (Task.writeCopy out text).run time t = (.ok (), t')) :
    FileTree.ChangesAt (out.toList.map fun path => (Path.ofText path).place) t t' ∧
    ∀ path ∈ out, t'.readText (.ofText path) = .ok text := by
  cases out with
  | none =>
    cases h
    exact ⟨.refl _, nofun⟩
  | some path =>
    have hparts : ∃ t₁, FileTree.ChangesAt [] t t₁ ∧
        (Task.write (.ofText path) text).run time t₁ = (.ok (), t') := by
      rw [Task.writeCopy] at h
      simp only at h
      split at h
      · next directory _ =>
        obtain ⟨_, t₁, hmake, hwrite⟩ := Script.exists_of_run_bind h
        have hmakes : (Task.makeDirs directory).ChangesAt [] := changesAt_makeDirs
        have hmade := hmakes time t
        rw [hmake] at hmade
        exact ⟨t₁, hmade, hwrite⟩
      · exact ⟨t, .refl t, h⟩
    obtain ⟨t₁, hmade, hwrite⟩ := hparts
    obtain ⟨hwritten, htext⟩ := write_eq_ok hwrite
    exact ⟨(hmade.mono (by simp)).trans (hwritten.mono (by simp)), by simpa using htext⟩

/-- **A run that succeeded has handed on its output**, to its folder and to the second file. -/
theorem handOn_eq_ok {output : Output} {elapsed : Nat}
    (houtside : ∀ out ∈ c.out, ¬ folder.path.place <+: (Path.ofText out).place)
    (h : (Task.handOn folder c output elapsed).run time t = (.ok (), t')) :
    t'.readText folder.outputPath = .ok (Output.codec.encode output).pretty ∧
    ∀ out ∈ c.out, t'.readText (.ofText out) = .ok (Output.codec.encode output).pretty := by
  obtain ⟨_, t₁, hwrite, h⟩ := Script.exists_of_run_bind h
  obtain ⟨_, t₂, hcopy, h⟩ := Script.exists_of_run_bind h
  obtain ⟨_, t₃, hlog, hlast⟩ := Script.exists_of_run_bind h
  obtain ⟨-, houtput⟩ := write_eq_ok hwrite
  obtain ⟨hcopied, hout⟩ := writeCopy_eq_ok hcopy
  have hlogged : FileTree.ChangesAt [folder.logPath.place] t₂ t' := by
    have hfirst := changesAt_log folder (.outputWritten folder.outputPath.text) time t₂
    have hsecond := changesAt_log folder (.finished output.tables.length elapsed) time t₃
    rw [hlog] at hfirst
    rw [hlast] at hsecond
    exact hfirst.trans hsecond
  have hapart : ∀ out ∈ c.out, ∀ name, name ≠ ".." →
      (folder.path.child name).place ≠ (Path.ofText out).place := by
    intro out hmem name hname heq
    exact houtside out hmem (heq ▸ prefix_file hname)
  refine ⟨hlogged.readText_eq outputPath_ne_logPath (hcopied.readText_eq ?_ houtput), ?_⟩
  · intro hmem
    obtain ⟨out, hout, heq⟩ := List.mem_map.mp hmem
    exact hapart out (Option.mem_toList.mp hout) "render.json" (by decide) heq.symm
  · intro out hmem
    refine hlogged.readText_eq ?_ (hout out hmem)
    exact fun heq => hapart out hmem "logs.ndjson" (by decide) (List.mem_singleton.mp heq).symm

/-! ## The command -/

section

variable {arguments : List String} {environment : List (String × String)} {id : String}
  {result : Except Failure String}

theorem settingsText_run (c : GenerateCommand) (time : Nat) (t : FileTree) :
    (Task.settingsText c.settings).run time t = (.ok (c.settingsFile t), t) := by
  rw [GenerateCommand.settingsFile]
  cases c.settings <;> rfl

theorem runIn_eq [PatternEngine] (folder : RunFolder) (c : GenerateCommand) (request : Request) :
    Task.runIn folder c request = (do
      Task.log folder (.started folder.id Source.fileLabel c.input request.config.dialect.label
        folder.path.text)
      let content ← Script.readText (.ofText c.input)
      Task.conclude folder c request content) := by
  refine congrArg _ (funext fun _ => congrArg _ (funext fun content => ?_))
  rw [Task.conclude, Task.logRows]
  dsimp only
  generalize produce (.ofFile c.input content) request {} = run
  obtain ⟨events, result⟩ := run
  cases (Source.ofFile c.input content).rows <;> cases result <;> rfl

theorem generate_run_of_error [PatternEngine] {fault : SettingsFault}
    (h : resolve (c.settingsFile t) environment c.overrides = .error fault) :
    (Task.generate c environment id origin).run time t = (.error (.settings fault), t) := by
  rw [Task.generate, Script.run_bind_of_ok (settingsText_run c time t), h]
  rfl

/-- A command whose settings are resolved collects its input, and goes on from there. -/
theorem generate_run_of_ok [PatternEngine]
    (h : resolve (c.settingsFile t) environment c.overrides = .ok request) :
    (Task.generate c environment id origin).run time t
      = (Task.collect (c.folder id time) c request origin
          >>= Task.conclude (c.folder id time) c request).run time t := by
  have hnow : (Script.now : Task Nat).run time t = (.ok time, t) := rfl
  have hrequest : (Script.ofExcept (Except.mapError Failure.settings (.ok request))
      : Task Request).run time t = (.ok request, t) := rfl
  rw [Task.generate, Script.run_bind_of_ok (settingsText_run c time t), h,
    Script.run_bind_of_ok hrequest, Script.run_bind_of_ok hnow]
  simp only [runIn_eq, Task.collect, bind_assoc]
  rfl

theorem ofArguments_run [PatternEngine] (hparse : Command.parse arguments = .ok (.generate c)) :
    (Task.ofArguments arguments environment id origin).run time t
      = (Task.generate c environment id origin >>= fun _ => pure "").run time t := by
  rw [Task.ofArguments, hparse]

theorem result_generate_eq [PatternEngine] (source : Source) (request : Request) (elapsed : Nat) :
    (generate source request {} elapsed).result = (produce source request {}).result := by
  rw [generate, Run.result_bind]
  cases (produce source request {}).result <;> rfl

/-- **A run that fails leaves no output**: its folder holds the request and the log, and every file
outside of the folder is as it was. -/
theorem generate_leaves_of_error [PatternEngine] {content : Except FileFault String}
    {t₁ : FileTree} {e : Error}
    (hcollect : (Task.collect folder c request origin).run time t = (.ok content, t₁))
    (herror : (produce (.ofFile c.input content) request {}).result = .error e) :
    ∃ t', (Task.collect folder c request origin >>= Task.conclude folder c request).run time t
        = (.error (.run e), t') ∧
      FileTree.ChangesAt folder.places t t' ∧ folder.HoldsRequest c.input request origin t' := by
  obtain ⟨hcollected, hholds⟩ := collect_eq_ok hcollect
  obtain ⟨t₂, hlogged, hconclude⟩ := conclude_run folder c request content time t₁
  obtain ⟨t', hclosed, hclose⟩ := close_error folder c request e time t₂
  have hlast : FileTree.ChangesAt [folder.logPath.place] t₁ t' := hlogged.trans hclosed
  refine ⟨t', ?_, hcollected.trans (hlast.mono logPath_mem_places), hholds.changesAt hlast⟩
  rw [Script.run_bind_of_ok hcollect, hconclude, herror, hclose]

/-- **A run that succeeds leaves its output wherever it was asked for.** -/
theorem generate_leaves_of_ok [PatternEngine]
    (houtside : ∀ out ∈ c.out, ¬ folder.path.place <+: (Path.ofText out).place)
    (h : (Task.collect folder c request origin >>= Task.conclude folder c request).run time t
      = (.ok (), t')) :
    ∃ content t₁ output, (Task.collect folder c request origin).run time t = (.ok content, t₁) ∧
      (produce (.ofFile c.input content) request {}).result = .ok output ∧
      t'.readText folder.outputPath = .ok (Output.codec.encode output).pretty ∧
      ∀ out ∈ c.out, t'.readText (.ofText out) = .ok (Output.codec.encode output).pretty := by
  obtain ⟨content, t₁, hcollect, hrest⟩ := Script.exists_of_run_bind h
  obtain ⟨t₂, -, hconclude⟩ := conclude_run folder c request content time t₁
  rw [hconclude] at hrest
  cases hresult : (produce (.ofFile c.input content) request {}).result with
  | error e =>
    obtain ⟨t₃, -, hclose⟩ := close_error folder c request e time t₂
    rw [hresult, hclose] at hrest
    cases hrest
  | ok output =>
    rw [hresult] at hrest
    obtain ⟨now, t₃, -, hrest⟩ := Script.exists_of_run_bind hrest
    obtain ⟨_, t₄, -, hhand⟩ := Script.exists_of_run_bind hrest
    exact ⟨content, t₁, output, hcollect, hresult, handOn_eq_ok houtside hhand⟩

end

end

end

/-- **What the program leaves in a tree of files.** Nothing, if the command line or the settings are
at fault. The request and the log in a new folder, but no output there and nothing new anywhere
else, if the input cannot be collected, decoded or normalized. The output in the folder and in the
second file, if the command that generates succeeds. -/
theorem Task.run_ofArguments_leaves [PatternEngine] {arguments : List String}
    {environment : List (String × String)} {id : String} {origin : Origin} {time : Nat}
    {t t' : FileTree} {result : Except Failure String}
    (hrun : (Task.ofArguments arguments environment id origin).run time t = (result, t')) :
    (∀ fault, Command.parse arguments = .error fault →
      result = .error (.usage fault) ∧ t' = t) ∧
    ∀ c, Command.parse arguments = .ok (.generate c) →
      (∀ fault, resolve (c.settingsFile t) environment c.overrides = .error fault →
        result = .error (.settings fault) ∧ t' = t) ∧
      (∀ request content t₁ e elapsed, (c.folder id time).IsNew c t →
        resolve (c.settingsFile t) environment c.overrides = .ok request →
        (Task.collect (c.folder id time) c request origin).run time t = (.ok content, t₁) →
        (ValidatorGen.generate (.ofFile c.input content) request {} elapsed).result = .error e →
        result = .error (.run e) ∧ (c.folder id time).HoldsRequest c.input request origin t' ∧
        t'.text? (c.folder id time).outputPath.place = none ∧
        (∀ q, ¬ (c.folder id time).path.place <+: q → t'.text? q = t.text? q) ∧
        ∀ out ∈ c.out, t'.text? (Path.ofText out).place = t.text? (Path.ofText out).place) ∧
      (∀ shown, (c.folder id time).IsNew c t → result = .ok shown →
        ∃ request content t₁ output,
          resolve (c.settingsFile t) environment c.overrides = .ok request ∧
          (Task.collect (c.folder id time) c request origin).run time t = (.ok content, t₁) ∧
          (∀ elapsed, (ValidatorGen.generate (.ofFile c.input content) request {} elapsed).result
            = .ok output) ∧
          t'.readText (c.folder id time).outputPath = .ok (Output.codec.encode output).pretty ∧
          ∀ out ∈ c.out, t'.readText (.ofText out) = .ok (Output.codec.encode output).pretty) := by
  refine ⟨fun fault hparse => ?_, fun c hparse => ⟨fun fault hresolve => ?_, ?_, ?_⟩⟩
  · rw [Task.ofArguments, hparse] at hrun
    cases hrun
    exact ⟨rfl, rfl⟩
  · rw [ofArguments_run hparse, Script.run_bind_of_error (generate_run_of_error hresolve)] at hrun
    cases hrun
    exact ⟨rfl, rfl⟩
  · intro request content t₁ e elapsed hnew hresolve hcollect herror
    rw [result_generate_eq] at herror
    obtain ⟨t₂, hfail, hchanges, hholds⟩ := generate_leaves_of_error hcollect herror
    rw [ofArguments_run hparse,
      Script.run_bind_of_error ((generate_run_of_ok hresolve).trans hfail)] at hrun
    cases hrun
    have houtside : ∀ q, ¬ (c.folder id time).path.place <+: q → t'.text? q = t.text? q :=
      fun q hq => hchanges.others q fun hmem => hq (prefix_of_mem_places hmem)
    refine ⟨rfl, hholds, ?_, houtside, fun out hout => houtside _ ?_⟩
    · have hoccupied := hnew.vacant _ (prefix_file (by decide : "render.json" ≠ ".."))
      rw [hchanges.others _ outputPath_not_mem_places, FileTree.text?, RunFolder.outputPath,
        hoccupied]
    · exact hnew.outside out hout
  · intro shown hnew hshown
    subst hshown
    cases hresolve : resolve (c.settingsFile t) environment c.overrides with
    | error fault =>
      rw [ofArguments_run hparse, Script.run_bind_of_error (generate_run_of_error hresolve)] at hrun
      cases hrun
    | ok request =>
      rw [ofArguments_run hparse] at hrun
      obtain ⟨_, t₁, hgenerate, hpure⟩ := Script.exists_of_run_bind hrun
      cases hpure
      rw [generate_run_of_ok hresolve] at hgenerate
      obtain ⟨content, t₂, output, hcollect, hresult, hread⟩ :=
        generate_leaves_of_ok hnew.outside hgenerate
      exact ⟨request, content, t₂, output, rfl, hcollect,
        fun elapsed => (result_generate_eq _ _ elapsed).trans hresult, hread⟩

/-- A tree with a file of rows, and one that ends too early. -/
def sampleTree : FileTree :=
  (FileTree.empty.put ["rows.json"] (.file "[]")).put ["broken.json"] (.file "[")

/-- A command that asks for its output in a second file. -/
def sampleCommand (input : String) : GenerateCommand := { input, out := some "models/all.json" }

/-- The command line of the command. -/
def sampleArguments (input : String) : List String :=
  ["generate", "--input=" ++ input, "--out=models/all.json"]

/-- The folder of the command. -/
def sampleFolder : RunFolder := ⟨"a", ⟨0⟩, .ofText "runs"⟩

theorem isNew_sampleTree (input : String) :
    sampleFolder.IsNew (sampleCommand input) sampleTree := by
  constructor
  · rintro _ ⟨rest, rfl⟩
    have hbase : sampleFolder.base.place = ["runs"] := by decide
    rw [place_path, hbase]
    simp [sampleTree, FileTree.put, FileTree.empty, Place.root]
  · rintro out ⟨⟩
    refine not_prefix_of_unnamed fun hname => ?_
    have hnames : (Path.ofText "models/all.json").names = ["models", "all.json"] := by decide
    rw [hnames] at hname
    simp only [List.mem_cons, List.not_mem_nil, or_false] at hname
    exact hname.elim (name_ne (by decide)) (name_ne (by decide))

theorem Task.run_ofArguments_leaves_sampleTree :
    (Task.ofArguments (sampleArguments "rows.json")
      [("SCHEMAFORGE_SINGULARIZATION_ENABLED", "maybe")] "a").run 0 sampleTree
        = (.error (.settings (.badValue "SCHEMAFORGE_SINGULARIZATION_ENABLED"
            (.notBoolean "maybe"))), sampleTree) ∧
    (∃ t, (Task.ofArguments (sampleArguments "broken.json") [] "a").run 0 sampleTree
        = (.error (.run (.json (.text .truncated))), t) ∧
      sampleFolder.HoldsRequest "broken.json" {} {} t ∧
      t.text? sampleFolder.outputPath.place = none ∧
      t.text? (Path.ofText "models/all.json").place = none) ∧
    (∃ t output, (Task.ofArguments (sampleArguments "rows.json") [] "a").run 0 sampleTree
        = (.ok "", t) ∧
      t.readText sampleFolder.outputPath = .ok (Output.codec.encode output).pretty ∧
      t.readText (.ofText "models/all.json") = .ok (Output.codec.encode output).pretty) := by
  have hparse : ∀ input ∈ ["rows.json", "broken.json"],
      Command.parse (sampleArguments input) = .ok (.generate (sampleCommand input)) := by decide
  refine ⟨?_, ?_, ?_⟩
  · cases hrun : (Task.ofArguments (sampleArguments "rows.json")
      [("SCHEMAFORGE_SINGULARIZATION_ENABLED", "maybe")] "a").run 0 sampleTree with
    | mk result t =>
      have hleaves := (Task.run_ofArguments_leaves hrun).2 _ (hparse _ (by decide))
      obtain ⟨rfl, rfl⟩ := hleaves.1 (.badValue "SCHEMAFORGE_SINGULARIZATION_ENABLED"
        (.notBoolean "maybe")) (by with_unfolding_all rfl)
      rfl
  · cases hrun : (Task.ofArguments (sampleArguments "broken.json") [] "a").run 0 sampleTree with
    | mk result t =>
      have hleaves := (Task.run_ofArguments_leaves hrun).2 _ (hparse _ (by decide))
      have hcollect : ((Task.collect sampleFolder (sampleCommand "broken.json") {} {}).run 0
          sampleTree).1 = .ok (.ok "[") := by with_unfolding_all rfl
      obtain ⟨rfl, hholds, houtput, -, hout⟩ := hleaves.2.1 {} (.ok "[") _
        (.json (.text .truncated)) 0 (isNew_sampleTree _) rfl (Prod.ext hcollect rfl)
        (by with_unfolding_all rfl)
      exact ⟨t, rfl, hholds, houtput, hout _ rfl⟩
  · cases hrun : (Task.ofArguments (sampleArguments "rows.json") [] "a").run 0 sampleTree with
    | mk result t =>
      have hleaves := (Task.run_ofArguments_leaves hrun).2 _ (hparse _ (by decide))
      have hfirst : ((Task.ofArguments (sampleArguments "rows.json") [] "a").run 0
          sampleTree).1 = .ok "" := by with_unfolding_all rfl
      have hresult : result = .ok "" := (congrArg Prod.fst hrun).symm.trans hfirst
      obtain ⟨_, _, _, output, -, -, -, houtput, hout⟩ :=
        hleaves.2.2 "" (isNew_sampleTree _) hresult
      exact ⟨t, output, by rw [hresult], houtput, hout _ rfl⟩

end ValidatorGen
