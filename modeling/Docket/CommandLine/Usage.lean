import Docket.CommandLine.Basic

/-!
# Usage

What a command line is answered that comes to no command: the version, the description of the
program, or the fault in one line.

Asked for, the description goes where documents go, and so it does if only a command or a word of it
is missing. With nothing on the command line it is reported like a fault.
-/

namespace Docket.CommandLine.Halt

/-- The name and version of the program. -/
def programVersion : String := "ticketsmith 0.3.0"

/-- How the program is used. -/
def usage : String := "\n".intercalate
  ["ticketsmith - layered ticket and document templates.",
   "Usage: ticketsmith [OPTIONS] <COMMAND>",
   "",
   "Commands:",
   "  generate  Render the template selected for a platform, document type and tech stack",
   "            [aliases: gen]",
   "  list      List every resolvable template and fragment [aliases: ls]",
   "  validate  Check template files and report every problem found",
   "  help      Print this message",
   "",
   "Options:",
   "  -v, --verbose      Increase logging verbosity (-v, -vv, -vvv)",
   "      --root <ROOT>  Directory holding the template definition files",
   "                     [env: TICKETSMITH_TEMPLATE_ROOT] [default: templates]",
   "  -h, --help         Print help",
   "  -V, --version      Print version",
   "",
   "Generate:  ticketsmith generate [OPTIONS] <PLATFORM> <DOCUMENT_TYPE> <TECH_STACK>",
   "  -c, --context <FILE>   JSON or YAML file with the render context, or - to read stdin",
   "      --strict           Fail on any variable the context cannot satisfy",
   "      --format <FORMAT>  Output format [default: text] [possible values: text, json]",
   "  -o, --output <FILE>    Write the result to a file instead of stdout",
   "",
   "Validate:  ticketsmith validate [PATH]",
   ""]

/-- What is printed instead of running a command. -/
def printed : Halt → String
  | version => programVersion ++ "\n"
  | help | commandMissing | wordMissing => usage
  | _ => ""

/-- What is reported as an error. -/
def reported : Halt → String
  | help | version | commandMissing | wordMissing => ""
  | nothingGiven => usage
  | unknownArgument => "error: unexpected argument found\n"
  | unknownCommand => "error: unrecognized subcommand\n"
  | badValue => "error: invalid value for an argument\n"
  | repeated => "error: an argument cannot be used multiple times\n"
  | surplusValue => "error: unexpected value for an argument\n"

end Docket.CommandLine.Halt
