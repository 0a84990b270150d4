import KubeManifest.CommandLine.Request

/-!
# Help

`Command.help` : what a command tells about itself, and `versionLine`, the name and version of the program.
-/

namespace KubeManifest.CommandLine

def versionLine : String := "kubemold v0.1.0"

def Command.help : Command → List String
  | program => [
      "usage: kubemold [-h] [--version] [-v] Command ...",
      "",
      "KubeMold - complete Kubernetes manifests from resource fragments",
      "",
      "positional arguments:",
      "  Command",
      "    generate     Generate manifests from fragments",
      "    classify     Show how fragment filenames are read",
      "",
      "options:",
      "  -h, --help     show this help message and exit",
      "  --version      show program's version number and exit",
      "  -v, --verbose  Debug logging"]
  | generate => [
      "usage: kubemold generate [-h] [-c CONFIG] [--fragments FRAGMENTS]",
      "                         [--output OUTPUT] [--app-name APP_NAME]",
      "                         [--format \x7byaml,json\x7d] [--dry-run]",
      "",
      "options:",
      "  -h, --help            show this help message and exit",
      "  -c CONFIG, --config CONFIG",
      "                        Configuration file (default: kubemold.yaml)",
      "  --fragments FRAGMENTS",
      "                        Directory holding resource fragments",
      "  --output OUTPUT       Directory to write manifests to",
      "  --app-name APP_NAME   Default resource name",
      "  --format \x7byaml,json\x7d  Output format",
      "  --dry-run             Print manifests without writing"]
  | classify => [
      "usage: kubemold classify [-h] files [files ...]",
      "",
      "positional arguments:",
      "  files       Fragment file names",
      "",
      "options:",
      "  -h, --help  show this help message and exit"]

end KubeManifest.CommandLine
