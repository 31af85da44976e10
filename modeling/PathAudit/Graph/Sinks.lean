import PathAudit.Graph.Record

/-! The catalogue of known dangerous sinks. An imported record whose sink is in the catalogue and
has no finding yet is given the catalogue's description. -/
namespace PathAudit.Sinks

def catalogue : List (FunctionId × String) := [
  ("exec",
    "Built-in that executes a block of Python source. If any part of the code string is derived " ++
    "from user-controlled data without validation, an attacker can inject statements and obtain " ++
    "code execution."),
  ("eval",
    "Built-in that evaluates a single Python expression and returns its value. " ++
    "Attacker-influenced expressions lead to code execution, and the returned value can also " ++
    "leak sensitive data."),
  ("os.system",
    "Runs a command string in a sub-shell. Concatenating unescaped user input into the command " ++
    "allows command injection and control of the host."),
  ("pickle.loads",
    "Deserializes bytes into Python objects. Crafted payloads from untrusted sources (network, " ++
    "unauthenticated files) run arbitrary code during unpickling."),
  ("pickle.load",
    "Deserializes Python objects from a file object. A file from an untrusted origin whose " ++
    "integrity is not verified can execute arbitrary code when loaded."),
  ("torch.load",
    "Loads serialized PyTorch models or tensors through pickle. Without weights_only=True, a " ++
    "malicious checkpoint (.pt, .pth) executes code while loading."),
  ("yaml.load",
    "Parses YAML into Python objects. With the default or full Loader, tags such as " ++
    "!!python/object construct arbitrary objects; old PyYAML releases (<= 5.3.1) are " ++
    "exploitable even with FullLoader."),
  ("joblib.load",
    "Restores objects persisted by joblib, which uses pickle underneath. Loading a file from an " ++
    "untrusted source executes any code embedded in it.")]

def names : List FunctionId := catalogue.map (·.1)

def describe? (sink : FunctionId) : Option String := catalogue.lookup sink

/-- The description to be written, when the record's sink has none of its own. -/
def missing? (r : PathRecord) : Option String :=
  if r.annotations.hasAny r.sink then none else describe? r.sink

def seed (r : PathRecord) : PathRecord :=
  match missing? r with
  | some text => { r with annotations := r.annotations.set r.sink .vulnerableSink text }
  | none => r

@[simp]
theorem callGraph_seed (r : PathRecord) : (seed r).callGraph = r.callGraph := by
  unfold seed
  split <;> rfl

@[simp]
theorem conclusion_seed (r : PathRecord) : (seed r).conclusion = r.conclusion := by
  unfold seed
  split <;> rfl

theorem missing?_seed (r : PathRecord) : missing? (seed r) = none := by
  cases found : missing? r with
  | none =>
    rw [seed, found]
    exact found
  | some text =>
    rw [seed, found, missing?]
    exact if_pos (Annotations.hasAny_set r.annotations r.sink .vulnerableSink text)

theorem seed_seed (r : PathRecord) : seed (seed r) = seed r := by
  rw [seed, missing?_seed]

end PathAudit.Sinks
