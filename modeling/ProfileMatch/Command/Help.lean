/-!
The texts by which the program explains itself.

* `versionText`: its name and version;
* `helpText`: its commands and options.
-/

namespace ProfileMatch

/-- The name and the version of the program. -/
def versionText : String := "nmmatchctl 0.1.0"

/-- The commands and options of the program. -/
def helpText : String :=
  "\n".intercalate
    [versionText,
     "Find the stored connection profile matching device state",
     "",
     "USAGE:",
     "    nmmatchctl [OPTIONS] <COMMAND> [OPTIONS] <FILE>",
     "",
     "A FILE of - stands for the standard input.",
     "",
     "COMMANDS:",
     "    match           Find the best matching candidate for the generated connection",
     "    diff            Show differences between the generated connection and each candidate",
     "    device-match    Check device against match specifications",
     "",
     "OPTIONS:",
     "    -c, --config <CONFIG>              Configuration file",
     "    -h, --help                         Print this text",
     "    -q                                 Disable logging",
     "    -v                                 Set verbose level",
     "    -V, --version                      Print the version",
     "",
     "OPTIONS OF match AND diff:",
     "        --indicated                    Only check connection type and port type",
     "        --no-carrier                   Device has no carrier",
     "        --ipv4-metric <IPV4_METRIC>    Default metric of IPv4 routes",
     "        --ipv6-metric <IPV6_METRIC>    Default metric of IPv6 routes",
     "",
     "OPTIONS OF match:",
     "        --uuid <UUID>                  Only consider the candidate with this UUID"]

end ProfileMatch
