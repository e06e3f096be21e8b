import Playpen.Text.Split

/-!
# Arguments of the interpreter

The source travels as the last argument and is never made part of other code.
The prelude before it runs the source, or only compiles it, and ends the error
stream with a report. Arguments are handed over one after the other, each with
a zero character behind it, so a source with a zero character in it cannot be
handed over; `cutBlock` gets the arguments back out of what is handed over.
-/

namespace Playpen.Arguments

/-- The name under which the source is run; diagnostics refer to it. -/
def sourceName : String := "<code>"

/-- Runs the source with all output on one stream, and reports how it ended. -/
def executePrelude : String :=
  "$stdout.sync = true\n" ++
  "$stderr = $stdout\n" ++
  "$__rbrun_source = ARGV.shift.to_s\n" ++
  "$__rbrun_report = lambda do |kind, e|\n" ++
  "  fields = [\n" ++
  "    e.class.name,\n" ++
  "    e.class.ancestors.map(&:to_s).join(\"\\n\"),\n" ++
  "    e.message,\n" ++
  "    Array(e.backtrace).select \x7b |l| l.start_with?(\"<code>:\") \x7d.first(5).join(\"\\n\"),\n" ++
  "  ]\n" ++
  "  STDERR.write(\"\\x1erbrun:#\x7bkind\x7d:\" + fields.map \x7b |f| [f.to_s].pack(\"m0\") \x7d.join(\":\") + \"\\n\")\n" ++
  "end\n" ++
  "$__rbrun_outcome = \"ok\"\n" ++
  "begin\n" ++
  "  eval($__rbrun_source, TOPLEVEL_BINDING, \"<code>\", 1)\n" ++
  "rescue SystemExit => e\n" ++
  "  $__rbrun_outcome = \"exit:#\x7be.status\x7d\"\n" ++
  "  raise\n" ++
  "rescue Exception => e\n" ++
  "  $__rbrun_outcome = nil\n" ++
  "  $__rbrun_report.call(\"raise\", e)\n" ++
  "ensure\n" ++
  "  $stdout.flush\n" ++
  "  STDERR.write(\"\\x1erbrun:#\x7b$__rbrun_outcome\x7d\\n\") if $__rbrun_outcome\n" ++
  "end\n"

/-- Compiles the source without running it, and reports whether that worked. -/
def checkPrelude : String :=
  "source = ARGV.shift.to_s\n" ++
  "begin\n" ++
  "  RubyVM::InstructionSequence.compile(source, \"<code>\")\n" ++
  "  STDERR.write(\"\\x1erbrun:ok\\n\")\n" ++
  "rescue SyntaxError => e\n" ++
  "  fields = [e.class.name, e.class.ancestors.map(&:to_s).join(\"\\n\"), e.message, \"\"]\n" ++
  "  STDERR.write(\"\\x1erbrun:syntax:\" + fields.map \x7b |f| [f.to_s].pack(\"m0\") \x7d.join(\":\") + \"\\n\")\n" ++
  "end\n"

/-- The arguments that hand a source to a prelude. -/
def withPrelude (interpreter : List String) (preamble source : String) : List String :=
  interpreter ++ ["-e", preamble, "--", source]

/-- The arguments for running the source. -/
def execute (interpreter : List String) (source : String) : List String :=
  withPrelude interpreter executePrelude source

/-- The arguments for checking the source. -/
def check (interpreter : List String) (source : String) : List String :=
  withPrelude interpreter checkPrelude source

/-- The source can be an argument. -/
def isPassable (source : String) : Bool := !source.toList.contains '\x00'

/-- Why a source cannot be an argument. -/
def notPassable : String := "source contains a NUL byte"

/-- The arguments as they are handed over. -/
def block (args : List String) : List Char := args.flatMap fun arg => arg.toList ++ ['\x00']

/-- The arguments in a block: what stands before each zero character. -/
def cutBlock (block : List Char) : List String :=
  ((Text.split '\x00' block).dropLast).map String.ofList

end Playpen.Arguments
