import CrossChain.Command.Chains
import CrossChain.Command.Invocation

/-!
# Usage

What a command line that is not carried out is answered: the help, the version, or what is wrong
with it.
-/

namespace CrossChain.Command

/-- The commands and the switches that all of them take. -/
def helpText : String := "\n".intercalate [
  "Multi-chain reference data and unified chain queries",
  "",
  "Usage: chainhub [OPTIONS] <COMMAND>",
  "",
  "Commands:",
  "  serve    Load all reference data and keep it fresh until Ctrl-C",
  "  chains   List configured chains: chains [--all]",
  "  token    Show token metadata: token <CHAIN> <ADDRESS> [--onchain]",
  "  balance  Query an on-chain balance: balance <CHAIN> <OWNER> [TOKEN]",
  "  fee      Resolve a bridge fee: fee <TOKEN> <FROM> <TO> <AMOUNT> [--decimals <DECIMALS>]",
  "  help     Print this message",
  "",
  "Options:",
  "  -c, --config <CONFIG>  Path to the configuration file [default: config.toml]",
  "      --json             JSON output for scripting",
  "  -q, --quiet            Decrease output verbosity",
  "  -h, --help             Print help",
  "  -V, --version          Print version",
  ""]

def UsageFault.text : UsageFault → String
  | help | nothing => helpText
  | version => s!"chainhub {programVersion}\n"
  | missingCommand => "error: a subcommand is required but was not given\n"
  | missingArgument => "error: the required arguments were not all given\n"
  | unknownArgument => "error: unexpected argument\n"
  | unknownCommand => "error: unrecognized subcommand\n"
  | repeated => "error: an argument cannot be used several times\n"
  | missingValue => "error: a value is required but none was given\n"
  | invalidValue => "error: a value is invalid\n"
  | needlessValue => "error: a value was given where none is taken\n"

end CrossChain.Command
