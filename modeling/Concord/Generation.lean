import Concord.Json.Decode
import Concord.Digest

/-!
Generations: candidates for comparison, written once by whoever generates them.
-/

namespace Concord

/-- A candidate. `backendSources` renders the source for backends that want it their own way;
`functionInputs` gives the argument lists that each function is called with. -/
structure Generation where
  id : String
  source : String
  backendSources : Table String
  functionInputs : Table (List (List Json))
  constructorInputs : List (List Json)
  compileError : Option String

namespace Generation

def sourceFor (generation : Generation) (backend : String) : String :=
  (generation.backendSources.get? backend).getD generation.source

/-- A candidate without constructor arguments is deployed once, with none. -/
def constructorSets (generation : Generation) : List (List Json) :=
  match generation.constructorInputs with
  | [] => [[]]
  | sets => sets

def fingerprint (generation : Generation) : String :=
  Digest.fingerprint generation.source

def fieldNames : List String :=
  ["id", "source", "backend_sources", "function_inputs", "constructor_inputs", "compile_error"]

def argumentLists : Decoder (List (List Json)) :=
  .list (.list .json)

def decoder : Decoder Generation :=
  .record "GenerationRecord" fieldNames fun r =>
    mk <$> r.required "id" .text
      <*> r.required "source" .text
      <*> r.withDefault "backend_sources" (.table .text) .empty
      <*> r.withDefault "function_inputs" (.table argumentLists) .empty
      <*> r.withDefault "constructor_inputs" argumentLists []
      <*> r.optional "compile_error" .text

def encode (generation : Generation) : Json :=
  .obj [
    ("id", .str generation.id),
    ("source", .str generation.source),
    ("backend_sources", .table .str generation.backendSources),
    ("function_inputs", .table (.list .arr) generation.functionInputs),
    ("constructor_inputs", .list .arr generation.constructorInputs),
    ("compile_error", .option .str generation.compileError)]

end Generation

end Concord
