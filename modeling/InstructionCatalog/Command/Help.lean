/-!
# Help

Texts that explain the command line and the input of patches.
-/

namespace InstructionCatalog.Help

def ofLines (lines : List String) : String :=
  String.join (lines.map fun line => line ++ "\n")

def patchLines : List String :=
  ["PATCH - apply XML to the instruction database",
   "",
   "USAGE:",
   "  insdb patch [-m MODE] [FILE]",
   "  insdb patch [-m MODE] -          # read from stdin",
   "",
   "OPTIONS:",
   "  -m, --mode MODE   merge (default) or replace",
   "                    merge:   update only what the patch supplies",
   "                    replace: substitute the whole entry",
   "",
   "INPUT:",
   "  A single <instruction> element, or several wrapped in <instructions>.",
   "  Records without a name attribute are skipped with a warning.",
   "",
   "INSTRUCTION FORMAT:",
   "",
   "  <instruction name=\"NAME\" category=\"CATEGORY\">",
   "    <description>Short description</description>",
   "",
   "    <!-- optional -->",
   "    <documentation>",
   "      <summary>Summary</summary>",
   "      <description>Detailed description</description>",
   "      <operation>Pseudocode, e.g. DEST := SRC</operation>",
   "      <flags-affected>OF, SF, ZF, CF</flags-affected>",
   "      <notes>Notes</notes>",
   "    </documentation>",
   "",
   "    <!-- optional -->",
   "    <variants>",
   "      <variant>",
   "        <operand type=\"REG\" />",
   "        <operand type=\"R_M\" />",
   "      </variant>",
   "      <variant>",
   "        <operand type=\"R_M\" />",
   "        <operand type=\"IMM\" optional=\"true\" />",
   "      </variant>",
   "    </variants>",
   "  </instruction>",
   "",
   "  name      required; stored lower-cased",
   "  category  e.g. ARITHMETIC, LOGICAL, DATA_TRANSFER, CONTROL, SYSTEM,",
   "            FLOATING_POINT, SIMD, CRYPTO",
   "  operand   REG, R_M, IMM, MEM, LABEL, IMM8..IMM64, REG8..REG64, SREG, ...",
   "",
   "MERGE:",
   "  Attributes in the patch overwrite existing ones. Each text field the",
   "  patch supplies (description, summary, operation, ...) replaces the",
   "  stored text; fields it leaves out are kept. <documentation> is merged",
   "  field by field. <variants> is replaced as a whole when supplied.",
   "  Any other child element replaces the stored one with the same tag.",
   "",
   "REPLACE:",
   "  The stored entry is discarded and the patch entry takes its place.",
   "",
   "EXAMPLES:",
   "",
   "  Add a record from stdin:",
   "    echo '<instruction name=\"nop\" category=\"CONTROL\">",
   "      <description>No operation</description>",
   "    </instruction>' | insdb patch -",
   "",
   "  Add a note to an existing record:",
   "    insdb patch -m merge - <<EOF",
   "    <instruction name=\"add\">",
   "      <documentation><notes>Sets CF on unsigned overflow</notes></documentation>",
   "    </instruction>",
   "    EOF",
   "",
   "  Several records at once:",
   "    insdb patch - <<EOF",
   "    <instructions>",
   "      <instruction name=\"push\" category=\"CONTROL\"><description>Push onto stack</description></instruction>",
   "      <instruction name=\"pop\" category=\"CONTROL\"><description>Pop from stack</description></instruction>",
   "    </instructions>",
   "    EOF",
   "",
   "  Replace an entry wholesale:",
   "    insdb patch -m replace syscall.xml"]

def patch : String :=
  ofLines patchLines

def usageLines : List String :=
  ["Instruction database tool",
   "",
   "Usage: insdb [OPTIONS] <COMMAND>",
   "",
   "Commands:",
   "  list         List instructions, optionally filtered by a name substring",
   "  read         Show a complete instruction entry",
   "  add          Add a simple instruction",
   "  add-complex  Add an instruction with documentation and variants, interactively",
   "  edit         Edit an instruction in $EDITOR",
   "  delete       Delete an instruction",
   "  patch        Apply XML patches from a file or stdin",
   "  help         Print usage",
   "",
   "Options:",
   "      --db <PATH>      Path to the instruction database",
   "      --config <PATH>  Path to the configuration file [default: insdb.toml]",
   "",
   "See 'insdb patch --help-patch' for the patch input format."]

def usage : String :=
  ofLines usageLines

end InstructionCatalog.Help
