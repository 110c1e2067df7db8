/-!
# Command lines

A relay is called with at most one option, the path of its configuration file, which the environment
may give instead. Help may be asked for.

- `Arguments.ofList` reads a command line; the first word that does not fit decides.
-/

namespace ObliviousRelay.Command

/-- What a command line asks for. -/
inductive Arguments where
  | help
  /-- A relay, perhaps with a configuration file. -/
  | serve (config : Option String)
  deriving DecidableEq, Repr

namespace Arguments

/-- Whether a word is an option and no value. -/
def isOption (word : List Char) : Bool :=
  match word with
  | '-' :: _ :: _ => true
  | _ => false

/-- The value that stands in the word of a short option; an equals sign before it is no part of
it. -/
def attachedValue : List Char → List Char
  | '=' :: value => value
  | value => value

/-- Takes a value for the configuration file: it is not empty, and there was none before. -/
def take (config : Option (List Char)) (value : List Char) : Option (List Char) :=
  if config.isSome || value.isEmpty then none else some value

/-- Reads words behind a configuration file, if one was given. -/
def read (config : Option (List Char)) : List (List Char) → Option Arguments
  | [] => some (.serve (config.map String.ofList))
  | word :: rest =>
    if word = "--".toList then
      if rest.isEmpty then some (.serve (config.map String.ofList)) else none
    else if word = "--help".toList then some .help
    else if word = "--config".toList || word = "-c".toList then
      match rest with
      | [] => none
      | value :: rest =>
        if isOption value then none
        else (take config value).bind fun value => read (some value) rest
    else match word with
      | '-' :: 'h' :: _ => some .help
      | '-' :: 'c' :: value =>
        (take config (attachedValue value)).bind fun value => read (some value) rest
      | _ =>
        if "--config=".toList.isPrefixOf word then
          (take config (word.drop 9)).bind fun value => read (some value) rest
        else none

/-- Reads a command line. The environment may name the configuration file where the command line
does not. -/
def ofList (words : List String) (fromEnvironment : Option String) : Option Arguments :=
  match read none (words.map String.toList) with
  | some (.serve none) => match fromEnvironment with
    | some "" => none
    | path => some (.serve path)
  | other => other

end Arguments

/-- What is printed where help is asked for. -/
def usage : String :=
  "Oblivious HTTP relay\n\nUsage: ohttp-relay [OPTIONS]\n\nOptions:\n" ++
  "  -c, --config <CONFIG>  Path to a TOML configuration file [env: OHTTP_RELAY_CONFIG=]\n" ++
  "  -h, --help             Print help\n"

end ObliviousRelay.Command
