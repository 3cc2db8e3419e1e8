import RelayMesh.CommandLine.Tool
import RelayMesh.NetworkPlan.Form

namespace RelayMesh.CommandLine.Compile

open Files (FileSystem)

structure Options where
  configuration : ConfigurationOptions
  topology : String
  output : Option String
  mesh : Option MeshMode
  certificateHosts : Bool

def grammar : Grammar where
  options := ConfigurationOptions.specs ++ [⟨"output", some 'o', .single⟩,
    ⟨"mesh", some 'm', .single⟩, ⟨"certificate-hosts", none, .flag⟩]
  positionals := 1

def Options.ofArguments? (environment : Option String) (a : Arguments) : Option Options := do
  return {
    configuration := ← ConfigurationOptions.ofArguments? environment a
    topology := ← a.positionals.head?.bind path?
    output := ← a.value? "output" path?
    mesh := ← a.value? "mesh" MeshMode.named?
    certificateHosts := a.has "certificate-hosts" }

def documentOfText? (text : String) : Option Document :=
  if Draft.isBlankFile text then some .null else (Draft.ofFile? text).bind Draft.settled?

variable {m : Type → Type} [Monad m] [FileSystem m]

def work (o : Options) : Work m Unit := do
  let c ← o.configuration.loadOrFail
  let c := { c with mesh := o.mesh.getD c.mesh }
  let text ← orFail (fun _ => s!"Cannot read {o.topology}") (← act (Files.readText o.topology))
  let some doc := documentOfText? text | throw s!"Cannot parse {o.topology}"
  let plan ← orFail (fun _ => s!"Cannot compile {o.topology}") (NetworkPlan.compile c doc)
  if o.certificateHosts then
    printLine (" ".intercalate (plan.certificateHosts.map Address.toString))
  else
    match o.output with
    | some path =>
      orFail (fun _ => s!"Cannot write {path}") (← act (Files.writeText path plan.text))
    | none => printLine plan.text

def run (environment : Option String) (commandLine : List String) : m Outcome :=
  match (grammar.read? commandLine).bind (Options.ofArguments? environment) with
  | some o => outcome (work o)
  | none => usage

end RelayMesh.CommandLine.Compile
