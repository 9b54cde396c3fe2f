import GameConfig.Command.Arguments
import GameConfig.Command.Basic

/-!
# Running a command line

A run depends on the arguments, the files and the standard input, and gives an exit code with
what is written to the two outputs.
-/

namespace GameConfig
namespace Command

structure Surroundings where
  file? : String → Option ByteArray
  standardInput : ByteArray

structure Outcome where
  code : UInt32
  output : String
  errors : String
deriving DecidableEq, Repr

def usageCode : UInt32 := 2
def failureCode : UInt32 := 1

def text (bytes : ByteArray) : Except Failure String :=
  match String.fromUTF8? bytes with
  | some text => pure text
  | none => .error .notText

def Surroundings.read (surroundings : Surroundings) (path : String) : Except Failure String :=
  match surroundings.file? path with
  | some bytes => text bytes
  | none => .error .missingFile

def Surroundings.document (surroundings : Surroundings) : Input → Except Failure String
  | .standard => text surroundings.standardInput
  | .text json => pure json
  | .file path => surroundings.read path

/-- What a request writes to the output.  Files are read before any text is looked into. -/
def answer (surroundings : Surroundings) : Request → Except Failure String
  | .version => pure "lorekey 0.1.0\n"
  | .query query input pretty => do
      let input ← surroundings.document input
      let v ← resolveQuery query (some input)
      pure ((if pretty then v.prettyText else v.compactText) ++ "\n")
  | .eval slot statePath? asTruth => do
      let state? ←
        match statePath? with
        | none => pure none
        | some path => some <$> surroundings.read path
      match ← evaluateSlot slot state? asTruth with
      | .value v => pure (v.compactText ++ "\n")
      | .truth b => pure (String.ofList (Json.booleanText b) ++ "\n")
  | .docs => pure Manual.overview
  | .doc name => showTopic name

def usage : String :=
  "usage: lorekey query QUERY [-i JSON | -f PATH] [-p]\n" ++
    "       lorekey eval EXPR [-s PATH] [-b]\n" ++
    "       lorekey docs\n" ++
    "       lorekey doc CATEGORY\n" ++
    "       lorekey --version\n"

def run (surroundings : Surroundings) (arguments : List String) : Outcome :=
  match Request.ofArguments? arguments with
  | none => ⟨usageCode, "", usage⟩
  | some request =>
      match answer surroundings request with
      | .ok output => ⟨0, output, ""⟩
      | .error failure => ⟨failureCode, "", failure.message ++ "\n"⟩

end Command
end GameConfig
