import SemanticLayer.Command.FileTable
import SemanticLayer.Proofs.Response.NamedShape
import SemanticLayer.Proofs.Setup.Expansion

/-!
# Responses from the command line

A run of the program on a file of requests ends as the library responds to the text of the file
(`run_transform`): with the response and a line break, or with an error and nothing written
(`Reports`). Requests that name no shape are responded to in the compact one if the arguments say
so, and in that of the settings otherwise.

What the settings and the log filter are is left open, but they must be there, since a run reads
them before it carries out its task. The log filter may refer to variables. A run asks its
surroundings for these variables and for no others, which is enough (`environmentOf_apply`).
-/

namespace SemanticLayer.Command

open Query (Shape)
open Response (Batch Request ResponseError Options respondText respondWithShape)
open Setup (Settings SettingsError Environment)

/-! ### Variables -/

theorem environmentOf_apply (surroundings : Surroundings Id) {text name : String}
    (h : name ∈ Setup.referencedNames text) :
    Id.run (environmentOf surroundings text) name = surroundings.getVariable name := by
  -- the variables are looked up in the list of those that the text refers to
  have hvalues : Id.run (environmentOf surroundings text) = fun name ↦
      (List.lookup name ((Setup.referencedNames text).map fun name ↦
        (name, surroundings.getVariable name))).join := by
    simp only [environmentOf, Id.run_bind, List.idRun_mapM, Id.run_pure]
    rfl
  rw [hvalues]
  show Option.join _ = _
  rw [List.lookup_graph _ h, Option.join_some]

/-- The log filter of the settings is resolved by the variables of the surroundings. -/
theorem checkLogFilter_eq {surroundings : Surroundings Id}
    (h : surroundings.getVariable "RUST_LOG" = none) (settings : Settings) :
    Id.run (checkLogFilter surroundings settings) =
      settings.checkedLogFilter surroundings.getVariable := by
  have hlog : surroundings.getVariable "RUST_LOG" = pure none := h
  have hfilter :
      settings.checkedLogFilter (Id.run (environmentOf surroundings settings.logFilter)) =
        settings.checkedLogFilter surroundings.getVariable := by
    rw [Settings.checkedLogFilter, Settings.checkedLogFilter, Settings.resolvedLogFilter,
      Settings.resolvedLogFilter, Setup.expand_congr fun name hname ↦
        environmentOf_apply surroundings (Setup.mem_referencedNames hname)]
  rw [← hfilter, checkLogFilter, hlog]
  rfl

theorem run_task {surroundings : Surroundings Id} {arguments : List String}
    {config : Option String} {task : Task} {settings : Settings} {filter : String}
    (harguments : parseArguments? arguments = some (.task config task))
    (hsettings : Id.run (loadSettings surroundings config) = .ok settings)
    (hfilter : Id.run (checkLogFilter surroundings settings) = .ok filter) :
    Id.run (run surroundings arguments) = Id.run (task.run surroundings settings) := by
  have hsettings' : loadSettings surroundings config = pure (.ok settings) := hsettings
  have hfilter' : checkLogFilter surroundings settings = pure (.ok filter) := hfilter
  simp only [run, harguments, hsettings', hfilter', pure_bind]

/-! ### The task -/

/-- How the run of a task ends that has an answer: with the answer and a line break, or with an
error and nothing written. -/
structure Reports (outcome : Outcome) (answer : Except ResponseError String) : Prop where
  ok : ∀ out, answer = .ok out → outcome.exitCode = 0 ∧ outcome.output = out ++ "\n"
  error : ∀ error, answer = .error error → outcome.exitCode = 1 ∧ outcome.output = ""

/-- How a run ends that has an output or fails. -/
def Outcome.ofResult : Except CommandError String → Outcome
  | .ok output => .success output
  | .error error => .failure error

/-- The shape of responses to requests that name none. -/
def fallbackShape (settings : Settings) (compact : Bool) : Shape :=
  if compact then .compact else settings.shape

/-- The task ends with the response to the requests of the text. -/
theorem reports_transformText (settings : Settings) (file text : String) (compact : Bool) :
    Reports (.ofResult (transformText settings file text compact false))
      (respondWithShape (fallbackShape settings compact) text) := by
  let options : Options :=
    if compact then { settings.options with shape := .compact } else settings.options
  have hshape : options.shape = fallbackShape settings compact := by
    cases compact <;> rfl
  unfold transformText respondWithShape
  cases Batch.ofText text with
  | error error => exact ⟨fun out h ↦ (by cases h), fun _ _ ↦ ⟨rfl, rfl⟩⟩
  | ok batch =>
    have hanswer : (batch.map (·.withShape (fallbackShape settings compact))).answer =
        (options.respondBatch batch).map fun responses ↦ responses.toJson.render := by
      rw [Options.respondBatch_eq, hshape, Batch.answer]
    show Reports
      (.ofResult ((options.respondBatch batch).mapError CommandError.transform >>= fun responses ↦
        .ok (responses.toJson.render ++ "\n")))
      (batch.map (·.withShape (fallbackShape settings compact))).answer
    rw [hanswer]
    cases options.respondBatch batch with
    | error error => exact ⟨fun out h ↦ (by cases h), fun _ _ ↦ ⟨rfl, rfl⟩⟩
    | ok responses =>
      refine ⟨fun out h ↦ ⟨rfl, ?_⟩, fun error h ↦ (by cases h)⟩
      obtain rfl := Except.ok.inj h
      rfl

/-- **A run on a file of requests ends as the library responds.** Let the arguments ask for the
responses to a file, on one line. Let there be settings, with a log filter that is none of the
variable `RUST_LOG`, and let the file have a text. If all requests of the text name their shapes,
the run ends with the response to the text, or with an error and no output if there is none. If some
do not, it ends so with the response to the same requests, where those that name no shape name the
compact one if the arguments ask for it, and that of the settings otherwise. -/
theorem run_transform {surroundings : Surroundings Id} {arguments : List String}
    {config : Option String} {file text : String} {compact : Bool} {settings : Settings}
    {filter : String}
    (harguments : parseArguments? arguments =
      some (.task config (.transform file compact false)))
    (hsettings : Id.run (loadSettings surroundings config) = .ok settings)
    (hlog : Id.run (surroundings.getVariable "RUST_LOG") = none)
    (hfilter : settings.checkedLogFilter surroundings.getVariable = .ok filter)
    (hfile : Id.run (surroundings.file file) = .text text) :
    ((∀ batch, Batch.ofText text = .ok batch →
        ∀ request ∈ batch.toList, request.shape.isSome = true) →
      Reports (Id.run (run surroundings arguments)) (respondText text)) ∧
    (∀ other, Batch.ofText other =
        (Batch.ofText text).map (Batch.map (·.withShape (fallbackShape settings compact))) →
      Reports (Id.run (run surroundings arguments)) (respondText other)) ∧
    Reports (Id.run (run surroundings arguments))
      (respondWithShape (fallbackShape settings compact) text) := by
  have hchecked := (checkLogFilter_eq hlog settings).trans hfilter
  have hfile' : surroundings.file file = pure (.text text) := hfile
  have hrun : Id.run (run surroundings arguments) =
      .ofResult (transformText settings file text compact false) := by
    rw [run_task harguments hsettings hchecked, Task.run, hfile', pure_bind]
    dsimp only
    cases transformText settings file text compact false <;> rfl
  have hreports := reports_transformText settings file text compact
  rw [← hrun] at hreports
  refine ⟨fun hnamed ↦ ?_, fun other hother ↦ ?_, hreports⟩
  · rwa [Response.respondWithShape_of_named hnamed] at hreports
  · rwa [Response.respondWithShape_of_ofText hother] at hreports

/-- A request for one column, with further fields. -/
def columnRequest (column fields : String) : String :=
  "\x7b\"aliasToMemberNameMap\":\x7b\"n\":\"N\"\x7d," ++
    "\"annotation\":\x7b\"N\":\x7b\"type\":\"number\"\x7d\x7d," ++
    "\"data\":[\x7b\"" ++ column ++ "\":5\x7d],\"query\":\x7b\x7d" ++ fields ++ "\x7d"

/-- Two requests, of which the second names its shape. -/
def mixedRequests : String :=
  Json.listText [columnRequest "n" "", columnRequest "n" ",\"resType\":\"default\""]

/-- The two requests, of which the first names the compact shape. -/
def namedRequests : String :=
  Json.listText [columnRequest "n" ",\"resType\":\"compact\"",
    columnRequest "n" ",\"resType\":\"default\""]

/-- Two requests, of which the second has no response. -/
def lateRequests : String :=
  Json.listText [columnRequest "n" "", columnRequest "m" ",\"resType\":null"]

/-- Responses to two requests, of which the first is compact. -/
def compactFirst : String :=
  "[\x7b\"members\":[\"N\"],\"dataset\":[[5]]\x7d,[\x7b\"N\":5\x7d]]"

/-- Responses to two requests, of which none is compact. -/
def noneCompact : String :=
  "[[\x7b\"N\":5\x7d],[\x7b\"N\":5\x7d]]"

/-- A directory with requests and with two files of settings, of which one asks for the compact
shape and refers to a variable. -/
def sampleDirectory : Surroundings Id :=
  FileTable.surroundings
    [("prism.toml",
        "[transform]\nresult_type = \"compact\"\n[logging]\nfilter = \"prism=$LEVEL\"\n"),
      ("plain.toml", "[dialect]\ndefault = \"postgres\"\n"),
      ("mixed.json", mixedRequests), ("named.json", namedRequests), ("late.json", lateRequests)]
    [("LEVEL", "debug")] ""

/-- The settings that ask for the compact shape. -/
def compactSettings : Settings :=
  { Settings.default with shape := .compact, logFilter := "prism=$LEVEL" }

/-- The settings that leave the shape as it is. -/
def plainSettings : Settings :=
  { Settings.default with dialect := .postgres }

/-- The exit code and the output of a run in the directory. -/
def sampleRun (arguments : List String) : UInt32 × String :=
  let outcome := Id.run (run sampleDirectory arguments)
  (outcome.exitCode, outcome.output)

theorem settings_sampleDirectory :
    (Id.run (loadSettings sampleDirectory none) = .ok compactSettings ∧
      compactSettings.checkedLogFilter sampleDirectory.getVariable = .ok "prism=debug") ∧
    Id.run (loadSettings sampleDirectory (some "plain.toml")) = .ok plainSettings ∧
      plainSettings.checkedLogFilter sampleDirectory.getVariable = .ok "prism=info" := by
  decide +kernel

theorem file_sampleDirectory :
    Id.run (sampleDirectory.file "mixed.json") = .text mixedRequests ∧
    Id.run (sampleDirectory.file "named.json") = .text namedRequests ∧
    Id.run (sampleDirectory.file "late.json") = .text lateRequests := by
  decide +kernel

theorem respondWithShape_mixedRequests :
    respondWithShape .compact mixedRequests = .ok compactFirst ∧
    respondWithShape .vanilla mixedRequests = .ok noneCompact := by
  rw [respondWithShape, respondWithShape, Batch.ofText, mixedRequests, Json.toList_listText_cons]
  decide +kernel

theorem respondWithShape_lateRequests :
    respondWithShape .compact lateRequests = .error (.hiddenMember "m" none) := by
  rw [respondWithShape, Batch.ofText, lateRequests, Json.toList_listText_cons]
  decide +kernel

theorem respondText_namedRequests :
    (∀ batch, Batch.ofText namedRequests = .ok batch →
      ∀ request ∈ batch.toList, request.shape.isSome = true) ∧
    respondText namedRequests = .ok compactFirst := by
  have hevaluated : ((Batch.ofText namedRequests).toOption.all fun batch ↦
        batch.toList.all (·.shape.isSome)) = true ∧
      respondText namedRequests = .ok compactFirst := by
    rw [respondText, Batch.ofText, namedRequests, Json.toList_listText_cons]
    decide +kernel
  refine ⟨fun batch hbatch ↦ ?_, hevaluated.2⟩
  have hall := hevaluated.1
  rw [hbatch] at hall
  exact List.all_eq_true.1 hall

/-- The settings decide for the request that names no shape, unless the flag does, and neither
decides for one that names its shape. Nothing is written if only a late request has no response. -/
theorem run_transform_sampleDirectory :
    sampleRun ["transform", "mixed.json"] = (0, compactFirst ++ "\n") ∧
    sampleRun ["transform", "named.json"] = (0, compactFirst ++ "\n") ∧
    sampleRun ["--config", "plain.toml", "transform", "mixed.json"] = (0, noneCompact ++ "\n") ∧
    sampleRun ["--config", "plain.toml", "transform", "--compact", "mixed.json"] =
      (0, compactFirst ++ "\n") ∧
    sampleRun ["transform", "late.json"] = (1, "") := by
  obtain ⟨⟨hcompact, hcompactFilter⟩, hplain, hplainFilter⟩ := settings_sampleDirectory
  obtain ⟨hmixedFile, hnamedFile, hlateFile⟩ := file_sampleDirectory
  have hmixed : parseArguments? ["transform", "mixed.json"] =
      some (.task none (.transform "mixed.json" false false)) := by decide +kernel
  have hnamed : parseArguments? ["transform", "named.json"] =
      some (.task none (.transform "named.json" false false)) := by decide +kernel
  have hplainMixed : parseArguments? ["--config", "plain.toml", "transform", "mixed.json"] =
      some (.task (some "plain.toml") (.transform "mixed.json" false false)) := by decide +kernel
  have hflag : parseArguments? ["--config", "plain.toml", "transform", "--compact", "mixed.json"] =
      some (.task (some "plain.toml") (.transform "mixed.json" true false)) := by decide +kernel
  have hlate : parseArguments? ["transform", "late.json"] =
      some (.task none (.transform "late.json" false false)) := by decide +kernel
  refine ⟨?_, ?_, ?_, ?_, ?_⟩
  · obtain ⟨-, -, hreports⟩ := run_transform hmixed hcompact rfl hcompactFilter hmixedFile
    obtain ⟨hexit, houtput⟩ := hreports.ok _ respondWithShape_mixedRequests.1
    exact Prod.ext hexit houtput
  · obtain ⟨hreports, -⟩ := run_transform hnamed hcompact rfl hcompactFilter hnamedFile
    obtain ⟨hexit, houtput⟩ :=
      (hreports respondText_namedRequests.1).ok _ respondText_namedRequests.2
    exact Prod.ext hexit houtput
  · obtain ⟨-, -, hreports⟩ := run_transform hplainMixed hplain rfl hplainFilter hmixedFile
    obtain ⟨hexit, houtput⟩ := hreports.ok _ respondWithShape_mixedRequests.2
    exact Prod.ext hexit houtput
  · obtain ⟨-, -, hreports⟩ := run_transform hflag hplain rfl hplainFilter hmixedFile
    obtain ⟨hexit, houtput⟩ := hreports.ok _ respondWithShape_mixedRequests.1
    exact Prod.ext hexit houtput
  · obtain ⟨-, -, hreports⟩ := run_transform hlate hcompact rfl hcompactFilter hlateFile
    obtain ⟨hexit, houtput⟩ := hreports.error _ respondWithShape_lateRequests
    exact Prod.ext hexit houtput

end SemanticLayer.Command
