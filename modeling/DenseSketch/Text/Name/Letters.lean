/-!
# Names of characters: letters, digits and signs of the alphabets in use

A table in the short form that `Text.Name` reads.  Data of the Unicode character database, version
14.
-/

namespace DenseSketch.Text.Name

/-- The names from U+0020 to U+1FFF. -/
def letters : List String :=
  [
    "@20 0:ll;dw bj;0:eg bj;0:dq ak;0:DOLLAR ak;0:PERCENT ak;0:nd;ku;av cd;0:ai cd;0:dh;cz ak;0:et",
    "sq;if ge;0:hj;cr ex;cs;co;aw;bt;by;fx;bv;br;dm;0:iw;jt;bu ak;0:gn ak;0:bh ak;0:fc bj;0:sn AT",
    "0:ft ac aa A;+25;0:av bn bd;0:ie hj;0:ai bn bd;0:be fs;0:is gw;0:ef fs;0:ft ad aa A;+25",
    "0:av kc bd;0:an gw;0:ai kc bd;0:cq;@A0 NO-BREAK ll;0:ca dw bj;0:CENT ak;0:POUND ak;0:xz ak",
    "0:YEN ak;0:BROKEN gf;0:hi ak;0:bk;COPYRIGHT ak;0:FEMININE ORDINAL nj;0:eb al fr eg bj;0:mt ak",
    "0:SOFT py;0:REGISTERED ak;0:dp;DEGREE ak;0:PLUS-MINUS ak;0:hm co;aw;0:db fs;0:MICRO ak",
    "0:PILCROW ak;0:bb cy;0:gg;hm cs;0:MASCULINE ORDINAL nj;0:da al fr eg bj;0:VULGAR hq cs fk;dg",
    "2:aw ji;0:ca fc bj;0:ft ac aa A ab ef;db;be;cq;bk;ei aj;3:AE;C ab gg;3:E ab ef;db;be;bk",
    "3:I ab ef;db;be;bk;3:ETH;N ab cq;3:O ab ef;db;be;cq;bk;0:gx ak;0:ft ac aa O ab at;3:U ab ef",
    "db;be;bk;3:Y ab db;3:THORN;1:ad aa SHARP S;3:A ab ef;db;be;cq;bk;ei aj;3:AE;C ab gg;3:E ab ef",
    "db;be;bk;3:I ab ef;db;be;bk;3:ETH;N ab cq;3:O ab ef;db;be;cq;bk;0:pp ak;0:ft ad aa O ab at",
    "3:U ab ef;db;be;bk;3:Y ab db;3:THORN;Y ab bk;1:ac aa A ab dp;1:ad aa A ab dp;1:ac aa A ab fd",
    "1:ad aa A ab fd;1:ac aa A ab mu;1:ad aa A ab mu;1:ac aa C ab db;1:ad aa C ab db",
    "1:ac aa C ab be;1:ad aa C ab be;1:ac aa C ab cy aj;1:ad aa C ab cy aj;1:ac aa C ab gs",
    "1:ad aa C ab gs;1:ac aa D ab gs;1:ad aa D ab gs;1:ac aa D ab at;1:ad aa D ab at",
    "1:ac aa E ab dp;1:ad aa E ab dp;1:ac aa E ab fd;1:ad aa E ab fd;1:ac aa E ab cy aj",
    "1:ad aa E ab cy aj;1:ac aa E ab mu;1:ad aa E ab mu;1:ac aa E ab gs;1:ad aa E ab gs",
    "1:ac aa G ab be;1:ad aa G ab be;1:ac aa G ab fd;1:ad aa G ab fd;1:ac aa G ab cy aj",
    "1:ad aa G ab cy aj;1:ac aa G ab gg;1:ad aa G ab gg;1:ac aa H ab be;1:ad aa H ab be",
    "1:ac aa H ab at;1:ad aa H ab at;1:ac aa I ab cq;1:ad aa I ab cq;1:ac aa I ab dp",
    "1:ad aa I ab dp;1:ac aa I ab fd;1:ad aa I ab fd;1:ac aa I ab mu;1:ad aa I ab mu",
    "1:ac aa I ab cy aj;1:ad aa la I;1:ac em IJ;1:ad em IJ;1:ac aa J ab be;1:ad aa J ab be",
    "1:ac aa K ab gg;1:ad aa K ab gg;3:KRA;1:ac aa L ab db;1:ad aa L ab db;1:ac aa L ab gg",
    "1:ad aa L ab gg;1:ac aa L ab gs;1:ad aa L ab gs;1:ac aa L ab bb cy;1:ad aa L ab bb cy",
    "1:ac aa L ab at;1:ad aa L ab at;1:ac aa N ab db;1:ad aa N ab db;1:ac aa N ab gg",
    "1:ad aa N ab gg;1:ac aa N ab gs;1:ad aa N ab gs;4:PRECEDED BY ku;1:ac aa ENG;1:ad aa ENG",
    "1:ac aa O ab dp;1:ad aa O ab dp;1:ac aa O ab fd;1:ad aa O ab fd;1:ac aa O ab al db",
    "1:ad aa O ab al db;1:ac em OE;1:ad em OE;1:ac aa R ab db;1:ad aa R ab db;1:ac aa R ab gg",
    "1:ad aa R ab gg;1:ac aa R ab gs;1:ad aa R ab gs;1:ac aa S ab db;1:ad aa S ab db",
    "1:ac aa S ab be;1:ad aa S ab be;1:ac aa S ab gg;1:ad aa S ab gg;1:ac aa S ab gs",
    "1:ad aa S ab gs;1:ac aa T ab gg;1:ad aa T ab gg;1:ac aa T ab gs;1:ad aa T ab gs",
    "1:ac aa T ab at;1:ad aa T ab at;1:ac aa U ab cq;1:ad aa U ab cq;1:ac aa U ab dp",
    "1:ad aa U ab dp;1:ac aa U ab fd;1:ad aa U ab fd;1:ac aa U ab ei aj;1:ad aa U ab ei aj",
    "1:ac aa U ab al db;1:ad aa U ab al db;1:ac aa U ab mu;1:ad aa U ab mu;1:ac aa W ab be",
    "1:ad aa W ab be;1:ac aa Y ab be;1:ad aa Y ab be;1:ac aa Y ab bk;3:Z ab db;1:ad aa Z ab db",
    "1:ac aa Z ab cy aj;1:ad aa Z ab cy aj;1:ac aa Z ab gs;1:ad aa Z ab gs;3:fl S;3:B ab at",
    "1:ac aa B ab bw;TOPBAR;1:ad aa B ab TOPBAR;1:ac aa fi fx;1:ad aa fi fx;1:ac aa fg O;3:C ab bw",
    "1:ad aa C ab bw;1:ac aa AFRICAN D;3:D ab bw;TOPBAR;1:ad aa D ab TOPBAR;3:ch mk;1:ac aa bq E",
    "3:zk;fg E;3:F ab bw;1:ad aa F ab bw;1:ac aa G ab bw;3:lh;1:ad aa HV;1:ac aa mg;I ab at",
    "3:K ab bw;1:ad aa K ab bw;3:L ab gf;3:LAMBDA ab at;1:ac aa ch M;3:N ab av bw",
    "1:ad aa N ab fl ai LEG;1:ac aa O ab bb cq;5:le;1:ad aa O ab le;1:ac aa OI;1:ad aa OI",
    "1:ac aa P ab bw;1:ad aa P ab bw;1:aa YR;1:ac aa fi co;1:ad aa fi co;1:ac aa ESH",
    "1:aa bq ESH uq;1:ad aa T ab gh bw;1:ac aa T ab bw;1:ad aa T ab bw;1:ac aa T ab cx bw",
    "3:U ab le;1:ad aa U ab le;1:ac aa gp;V ab bw;3:Y ab bw;1:ad aa Y ab bw;1:ac aa Z ab at",
    "1:ad aa Z ab at;1:ac aa EZH;4:bq;1:ad aa EZH bq;ab hw;1:aa co ab at;1:ac aa fi by",
    "1:ad aa fi by;1:aa ca go ge ab at;2:WYNN;DENTAL wa;2:LATERAL wa;2:ALVEOLAR wa;2:cx wa",
    "1:ac aa DZ ab gs;3:D ab ad aa Z ab gs;1:ad aa DZ ab gs;1:ac aa LJ;L ab ad aa J;1:ad aa LJ",
    "1:ac aa NJ;N ab ad aa J;1:ad aa NJ;1:ac aa A ab gs;1:ad aa A ab gs;1:ac aa I ab gs",
    "1:ad aa I ab gs;1:ac aa O ab gs;1:ad aa O ab gs;1:ac aa U ab gs;1:ad aa U ab gs",
    "1:ac aa U ab bk bi dp;1:ad aa U ab bk bi dp;1:ac aa U ab bk bi db;1:ad aa U ab bk bi db",
    "1:ac aa U ab bk bi gs;1:ad aa U ab bk bi gs;1:ac aa U ab bk bi ef;1:ad aa U ab bk bi ef",
    "3:ch E;1:ac aa A ab bk bi dp;1:ad aa A ab bk bi dp;1:ac aa A ab cy aj bi dp",
    "1:ad aa A ab cy aj bi dp;1:ac aa AE ab dp;1:ad aa AE ab dp;1:ac aa G ab at;1:ad aa G ab at",
    "1:ac aa G ab gs;1:ad aa G ab gs;1:ac aa K ab gs;1:ad aa K ab gs;1:ac aa O ab mu",
    "1:ad aa O ab mu;1:ac aa O ab mu bi dp;1:ad aa O ab mu bi dp;1:ac aa EZH ab gs",
    "1:ad aa EZH ab gs;3:J ab gs;1:ac aa DZ;D ab ad aa Z;1:ad aa DZ;1:ac aa G ab db",
    "1:ad aa G ab db;1:ac aa HWAIR;WYNN;N ab ef;1:ad aa N ab ef;1:ac aa A ab ei aj bi db",
    "1:ad aa A ab ei aj bi db;1:ac aa AE ab db;1:ad aa AE ab db;1:ac aa O ab at bi db",
    "1:ad aa O ab at bi db;1:ac aa A ab al ef;1:ad aa A ab al ef;1:ac aa A ab ca fd",
    "1:ad aa A ab ca fd;1:ac aa E ab al ef;1:ad aa E ab al ef;1:ac aa E ab ca fd",
    "1:ad aa E ab ca fd;1:ac aa I ab al ef;1:ad aa I ab al ef;1:ac aa I ab ca fd",
    "1:ad aa I ab ca fd;1:ac aa O ab al ef;1:ad aa O ab al ef;1:ac aa O ab ca fd",
    "1:ad aa O ab ca fd;1:ac aa R ab al ef;1:ad aa R ab al ef;1:ac aa R ab ca fd",
    "1:ad aa R ab ca fd;1:ac aa U ab al ef;1:ad aa U ab al ef;1:ac aa U ab ca fd",
    "1:ad aa U ab ca fd;1:ac aa S ab et aq;1:ad aa S ab et aq;1:ac aa T ab et aq",
    "1:ad aa T ab et aq;1:ac aa YOGH;1:ad aa YOGH;1:ac aa H ab gs;1:ad aa H ab gs",
    "1:ac aa N ab fl ai LEG;1:ad aa D ab rf;1:ac aa OU;1:ad aa OU;1:ac aa Z ab bw;1:ad aa Z ab bw",
    "1:ac aa A ab cy aj;1:ad aa A ab cy aj;1:ac aa E ab gg;1:ad aa E ab gg;1:ac aa O ab bk bi dp",
    "1:ad aa O ab bk bi dp;1:ac aa O ab cq bi dp;1:ad aa O ab cq bi dp;1:ac aa O ab cy aj",
    "1:ad aa O ab cy aj;1:ac aa O ab cy aj bi dp;1:ad aa O ab cy aj bi dp;1:ac aa Y ab dp",
    "1:ad aa Y ab dp;3:L ab rf;3:N ab rf;3:T ab rf;3:la J;3:DB gm;3:QP gm;1:ac aa A ab at",
    "3:C ab at;1:ad aa C ab at;1:ac aa L ab gf;3:T ab dl at;1:ad aa S ab SWASH hw;3:Z ab SWASH hw",
    "1:ac aa go ge;1:ad aa go ge;1:ac aa B ab at;3:U gf;3:ch V;3:E ab at;1:ad aa E ab at",
    "1:ac aa J ab at;1:ad aa J ab at;1:ac aa ad Q ab bw hw;1:ad aa Q ab bw hw;1:ac aa R ab at",
    "1:ad aa R ab at;1:ac aa Y ab at;1:ad aa Y ab at;3:ch A;3:ik;ch ik;3:B ab bw;3:fg O;3:C ab rf",
    "3:D ab hw;bw;3:bq E;3:zk;4:ab bw;3:fg E;3:bq fg E;6:ab bw;3:gl bq fg E;3:la J ab at;3:G ab bw",
    "3:it G;1:aa ad ac G;1:ad aa lh;RAMS le;3:ch H;3:H ab bw;3:HENG ab bw;3:I ab at;3:mg",
    "1:aa ad ac I;1:ad aa L ab bb cq;5:BELT;cx bw;3:LEZH;ch M;5:ab fl LEG;3:M ab bw;3:N ab av bw",
    "5:cx bw;1:aa ad ac N;1:ad aa sh O;1:aa ad ac OE;1:ad aa gl hs;3:PHI;ch R;5:ab fl LEG;6:bw",
    "3:R ab fl LEG;5:hw;ru;3:bq R ab ru;1:aa ad ac R;ca R;1:ad aa S ab bw;3:ESH;la J ab at bi bw",
    "3:SQUAT bq ESH;3:ESH ab rf;3:ch T;3:T ab cx bw;3:U gf;3:gp;V ab bw;3:ch V;+;Y;1:aa ad ac Y",
    "1:ad aa Z ab cx bw;5:rf;3:EZH;4:ab rf;1:aa go ge;2:PHARYNGEAL th FRICATIVE;2:ca go ge",
    "2:STRETCHED C;2:BILABIAL wa;2:ad ac B;1:ad aa gl fg E;1:aa ad ac G ab bw;4:H;1:ad aa J ab jb",
    "3:ch K;1:aa ad ac L;1:ad aa Q ab bw;1:aa go ge ab at;2:bq go ge ab at;1:ad aa DZ gm;3:DEZH gm",
    "3:DZ gm ab rf;3:TS gm;3:TESH gm;3:TC gm ab rf;3:FENG gm;3:LS gm;3:LZ gm",
    "1:aa BILABIAL PERCUSSIVE;2:BIDENTAL PERCUSSIVE;1:ad aa ch H ab ru;7:bi hw;0:ev aa ad H",
    "4:ab bw;3:J;R;ch R;5:ab bw;3:ac ca R;3:W;Y;2:uv;al uv;2:ch et;2:ku;bq et;2:ai dg ei",
    "2:av dg ei;2:go ge;2:bq go ge;2:av bm;2:ai bm;2:UP bm;2:di bm;2:be fs;0:gs;ev aa an gw;2:dp",
    "db fs;2:ef fs;2:is an gw;3:dp;ef fs;3:db fs;2:ez iw;2:dg ez iw;2:sl ai dg ei;3:av dg ei",
    "2:UP lf;2:di lf;2:cz ak;2:og ak;0:fd;cy aj;0:ei aj;0:mu;ad cq;0:al db fs;0:ev aa RHOTIC bw",
    "2:gr fs;2:ad lh;L;S;X;bq go ge;2:wo fi gf;2:ga fi gf;2:MID fi gf;2:is fi gf;2:EXTRA-LOW fi gf",
    "2:YIN DEPARTING fi bj;2:YANG DEPARTING fi bj;2:VOICING;UNASPIRATED;al ku;2:is di bm;3:UP bm",
    "3:av bm;3:ai bm;3:ei;2:bb ef fs;3:al ef fs;4:db fs;2:is cq;2:ig iw;2:BEGIN ga fi;2:yf ga fi",
    "2:BEGIN is fi;2:yf is fi;2:SHELF;fg SHELF;2:is av ae;0:dj ef fs;1:db fs;1:be fs;1:cq;dp;qg;fd",
    "cy aj;1:bk;bw aj;1:ei aj;1:al db fs;1:gs;an gw aj;1:al an gw aj;2:ef fs;1:df;ca fd;1:ch et aj",
    "1:et aj;1:bq et aj;1:et aj ai;1:ef fs aq;1:db fs aq;1:av lf aq;1:ai lf aq;1:av fr aj;1:le",
    "av dg ei aq;1:UP lf aq;1:di lf aq;1:cz ak aq;1:og ak aq;1:PALATALIZED bw aq;1:cx bw aq",
    "1:cy aq;1:bk aq;1:ei aq;1:et aq;1:gg;mu;an gw aq;1:BRIDGE aq;1:ca al ARCH aq;1:gs aq",
    "1:be fs aq;1:fd aq;1:ca fd aq;1:cq aq;1:dp aq;1:is gw;1:al is gw;1:cq ho;1:fu at ho",
    "1:fl at ho;1:fu hj ho;1:fl hj ho;1:ai dg ei aq;1:ca BRIDGE aq;1:bn aq;1:SEAGULL aq;1:X aj",
    "1:an cq;1:al qg;1:ef fi bj;1:db fi bj;1:kn bz;KORONIS;in nb;2:bx;1:BRIDGE aj;1:gn ak aq",
    "1:al an gw aq;1:av fr aq;1:mt cq aj;1:HOMOTHETIC aj;1:lt cj TO aj;1:av ai ae aq;1:bp ae aq",
    "1:GRAPHEME JOINER;1:ai bm aj;1:av dg ei aj;1:FERMATA;X aq;1:av bm aq;1:ai bm aq;bi UP bm aq",
    "2:dg ei aj;1:cy aj ai;1:dh aq;1:al ei aq;1:xn aj;1:al fd aq;2:fd;dp;3:aq;2:cq;ca fd",
    "2:ah ae aq;1:ft ad aa A;E;I;O;U;C;+;H;M;R;T;V;X;0:kn ac aa HETA;1:ad aa HETA;1:ac aa iv SAMPI",
    "1:ad aa iv SAMPI;1:pb ak;1:cu pb ak;1:ac aa PAMPHYLIAN yc;1:ad aa PAMPHYLIAN yc;@37A 1:bx",
    "ad bq st kh au;2:fy st kh au;2:bq fy st kh au;1:fc bj;1:ac aa YOT;@384 1:nb;in nb",
    "1:ac aa ik ab nb;1:ANO TELEIA;1:ac aa gy ab nb;3:ETA ab nb;3:mg ab nb;@38C 3:jg ab nb",
    "@38E 3:gp ab nb;3:hs ab nb;1:ad aa mg ab in bi nb;1:ac aa ik;to;lh;mk;gy;ZETA;ETA;ks;mg;of;ry",
    "MU;NU;XI;jg;PI;RHO;@3A3 kh;TAU;gp;PHI;CHI;PSI;hs;mg ab in;3:gp ab in;1:ad aa ik ab nb",
    "3:gy ab nb;3:ETA ab nb;3:mg ab nb;3:gp ab in bi nb;3:ik;to;lh;mk;gy;ZETA;ETA;ks;mg;of;ry;MU",
    "NU;XI;jg;PI;RHO;ar kh;3:kh;TAU;gp;PHI;CHI;PSI;hs;mg ab in;3:gp ab in;3:jg ab nb;3:gp ab nb",
    "3:hs ab nb;1:ac KAI au;1:to au;1:ks au;1:gp ab bw au;3:db bi bw au;3:bk bi bw au;1:PHI au",
    "1:PI au;1:KAI au;1:aa iv KOPPA;1:ad aa iv KOPPA;1:aa STIGMA;1:ad aa STIGMA;1:aa yc;1:ad aa yc",
    "1:aa KOPPA;1:ad aa KOPPA;1:aa SAMPI;1:ad aa SAMPI;0:ij ac aa SHEI;1:ad aa SHEI;1:ac aa FEI",
    "1:ad aa FEI;1:ac aa KHEI;1:ad aa KHEI;1:ac aa HORI;1:ad aa HORI;1:ac aa GANGIA;1:ad aa GANGIA",
    "1:ac aa SHIMA;1:ad aa SHIMA;1:ac aa DEI;1:ad aa DEI;0:kn of au;1:RHO au;1:st kh au;1:aa YOT",
    "1:ac ks au;1:st gy au;1:bq st gy au;1:ac aa SHO;1:ad aa SHO;1:ac st kh au;2:aa SAN",
    "1:ad aa SAN;1:RHO ab at au;1:ac bq st kh au;2:fy st kh au;2:bq fy st kh au",
    "0:jr ac aa IE ab ef;3:IO;DJE;GJE;UKRAINIAN IE;3:DZE;sj I;3:YI;JE;LJE;NJE;TSHE;KJE;I ab ef",
    "3:fu U;3:DZHE;A;BE;VE;GHE;DE;IE;ZHE;ZE;I;fu I;3:KA;EL;+2;O;PE;ER;+;TE;U;EF;HA;TSE;CHE;kt",
    "SHCHA;HARD ak;3:YERU;SOFT ak;3:E;YU;YA;1:ad aa A;BE;VE;GHE;DE;IE;ZHE;ZE;I;fu I;3:KA;EL;+2;O",
    "PE;ER;+;TE;U;EF;HA;TSE;CHE;kt;SHCHA;HARD ak;3:YERU;SOFT ak;3:E;YU;YA;IE ab ef;3:IO;DJE;GJE",
    "UKRAINIAN IE;3:DZE;sj I;3:YI;JE;LJE;NJE;TSHE;KJE;I ab ef;3:fu U;3:DZHE;1:ac aa hs;1:ad aa hs",
    "1:ac aa YAT;1:ad aa YAT;1:ac aa ir E;1:ad aa ir E;1:ac aa ea zx;1:ad aa ea zx",
    "1:ac aa ir ea zx;1:ad aa ir ea zx;1:ac aa BIG zx;1:ad aa BIG zx;1:ac aa ir BIG zx",
    "1:ad aa ir BIG zx;1:ac aa KSI;1:ad aa KSI;1:ac aa PSI;1:ad aa PSI;1:ac aa FITA;1:ad aa FITA",
    "1:ac aa yo;1:ad aa yo;1:ac aa yo ab al ef fs;1:ad aa yo ab al ef fs;1:ac aa UK;1:ad aa UK",
    "1:ac aa va hs;1:ad aa va hs;1:ac aa hs ab TITLO;1:ad aa hs ab TITLO;1:ac aa OT;1:ad aa OT",
    "1:ac aa KOPPA;1:ad aa KOPPA;1:nn ak;0:dj jr TITLO;PALATALIZATION;dv PNEUMATA;2:dx PNEUMATA",
    "2:POKRYTIE;az nn ak;2:rz ak;0:jr ac aa fu I ab hw;1:ad aa fu I ab hw;1:ac aa SEMISOFT ak",
    "1:ad aa SEMISOFT ak;1:ac aa ER ab TICK;1:ad aa ER ab TICK;1:ac aa GHE ab UPTURN",
    "1:ad aa GHE ab UPTURN;1:ac aa GHE ab at;1:ad aa GHE ab at;1:ac aa GHE ab bb bw",
    "1:ad aa GHE ab bb bw;1:ac aa ZHE ab dc;1:ad aa ZHE ab dc;1:ac aa ZE ab dc;1:ad aa ZE ab dc",
    "1:ac aa KA ab dc;1:ad aa KA ab dc;1:ac aa KA ab an at;1:ad aa KA ab an at;1:ac aa KA ab at",
    "1:ad aa KA ab at;1:ac aa BASHKIR KA;1:ad aa BASHKIR KA;1:ac aa EN ab dc;1:ad aa EN ab dc",
    "1:ac em EN GHE;1:ad em EN GHE;1:ac aa PE ab bb bw;1:ad aa PE ab bb bw;1:ac aa nc HA",
    "1:ad aa nc HA;1:ac aa ES ab dc;1:ad aa ES ab dc;1:ac aa TE ab dc;1:ad aa TE ab dc",
    "1:ac aa gj U;1:ad aa gj U;1:ac aa gj U ab at;1:ad aa gj U ab at;1:ac aa HA ab dc",
    "1:ad aa HA ab dc;1:ac em TE TSE;1:ad em TE TSE;1:ac aa CHE ab dc;1:ad aa CHE ab dc",
    "1:ac aa CHE ab an at;1:ad aa CHE ab an at;1:ac aa SHHA;1:ad aa SHHA;1:ac aa nc CHE",
    "1:ad aa nc CHE;1:ac aa nc CHE ab dc;1:ad aa nc CHE ab dc;1:aa PALOCHKA;1:ac aa ZHE ab fd",
    "1:ad aa ZHE ab fd;1:ac aa KA ab bw;1:ad aa KA ab bw;1:ac aa EL ab hw;1:ad aa EL ab hw",
    "1:ac aa EN ab bw;1:ad aa EN ab bw;1:ac aa EN ab hw;1:ad aa EN ab hw;1:ac aa KHAKASSIAN CHE",
    "1:ad aa KHAKASSIAN CHE;1:ac aa EM ab hw;1:ad aa EM ab hw;3:PALOCHKA;1:ac aa A ab fd",
    "1:ad aa A ab fd;1:ac aa A ab bk;1:ad aa A ab bk;1:ac em A IE;1:ad em A IE;1:ac aa IE ab fd",
    "1:ad aa IE ab fd;1:ac aa zk;1:ad aa zk;1:ac aa zk ab bk;1:ad aa zk ab bk;1:ac aa ZHE ab bk",
    "1:ad aa ZHE ab bk;1:ac aa ZE ab bk;1:ad aa ZE ab bk;1:ac aa nc DZE;1:ad aa nc DZE",
    "1:ac aa I ab dp;1:ad aa I ab dp;1:ac aa I ab bk;1:ad aa I ab bk;1:ac aa O ab bk",
    "1:ad aa O ab bk;1:ac aa sh O;1:ad aa sh O;1:ac aa sh O ab bk;1:ad aa sh O ab bk",
    "1:ac aa E ab bk;1:ad aa E ab bk;1:ac aa U ab dp;1:ad aa U ab dp;1:ac aa U ab bk",
    "1:ad aa U ab bk;1:ac aa U ab al db;1:ad aa U ab al db;1:ac aa CHE ab bk;1:ad aa CHE ab bk",
    "1:ac aa GHE ab dc;1:ad aa GHE ab dc;1:ac aa YERU ab bk;1:ad aa YERU ab bk",
    "1:ac aa GHE ab at bi bw;1:ad aa GHE ab at bi bw;1:ac aa HA ab bw;1:ad aa HA ab bw",
    "1:ac aa HA ab at;1:ad aa HA ab at;1:ac aa wv DE;1:ad aa wv DE;1:ac aa wv DJE;1:ad aa wv DJE",
    "1:ac aa wv ZJE;1:ad aa wv ZJE;1:ac aa wv DZJE;1:ad aa wv DZJE;1:ac aa wv LJE;1:ad aa wv LJE",
    "1:ac aa wv NJE;1:ad aa wv NJE;1:ac aa wv SJE;1:ad aa wv SJE;1:ac aa wv TJE;1:ad aa wv TJE",
    "1:ac aa bq ZE;1:ad aa bq ZE;1:ac aa EL ab bw;1:ad aa EL ab bw;1:ac aa LHA;1:ad aa LHA",
    "1:ac aa RHA;1:ad aa RHA;1:ac aa YAE;1:ad aa YAE;1:ac aa QA;1:ad aa QA;1:ac aa WE;1:ad aa WE",
    "1:ac aa ALEUT KA;1:ad aa ALEUT KA;1:ac aa EL ab bb bw;1:ad aa EL ab bb bw;1:ac aa EN ab bb bw",
    "1:ad aa EN ab bb bw;1:ac aa PE ab dc;1:ad aa PE ab dc;1:ac aa SHHA ab dc;1:ad aa SHHA ab dc",
    "1:ac aa EN ab av bw;1:ad aa EN ab av bw;1:ac aa DZZHE;1:ad aa DZZHE;1:ac aa DCHE;1:ad aa DCHE",
    "1:ac aa EL ab dc;1:ad aa EL ab dc;@531 0:xq ac aa AYB;BEN;GIM;DA;ECH;ZA;EH;ET;TO;ZHE;INI;LIWN",
    "XEH;CA;KEN;HO;JA;GHAD;CHEH;MEN;YI;NOW;kt;VO;lg;PEH;JHEH;RA;SEH;VEW;TIWN;xo;CO;YIWN;PIWR;KEH",
    "OH;FEH;@559 1:ev aa av dg ei;1:ku;EMPHASIS bj;1:dw bj;1:et;fc bj;1:eu bj;1:ad aa ch AYB;3:AYB",
    "BEN;GIM;DA;ECH;ZA;EH;ET;TO;ZHE;INI;LIWN;XEH;CA;KEN;HO;JA;GHAD;CHEH;MEN;YI;NOW;kt;VO;lg;PEH",
    "JHEH;RA;SEH;VEW;TIWN;xo;CO;YIWN;PIWR;KEH;OH;FEH;2:em ECH YIWN;2:aa YI ab at;1:if ge;1:py",
    "@58D 0:sz xq ETERNITY ak;0:up xq ETERNITY ak;0:xq DRAM ak;@591 0:HEBREW fs ETNAHTA;SEGOL",
    "SHALSHELET;ZAQEF QATAN;GADOL;2:TIPEHA;REVIA;ZARQA;PASHTA;YETIV;TEVIR;GERESH;3:MUQDAM",
    "2:GERSHAYIM;QARNEY PARA;2:TELISHA GEDOLA;2:PAZER;ATNAH HAFUKH;2:MUNAH;MAHAPAKH;MERKHA",
    "3:KEFULA;2:DARGA;QADMA;TELISHA QETANA;2:YERAH BEN YOMO;2:OLE;ILUY;DEHI;ZINOR;1:bj MASORA bo",
    "1:tl SHEVA;HATAF SEGOL;PATAH;QAMATS;2:HIRIQ;TSERE;SEGOL;PATAH;QAMATS;HOLAM;3:HASER tp VAV",
    "2:QUBUTS;ix OR MAPIQ;2:METEG;1:cc MAQAF;1:tl RAFE;1:cc PASEQ;1:tl mw cy;2:SIN cy",
    "1:cc SOF PASUQ;1:bj dr cy;2:cu cy;1:cc qr HAFUKHA;1:tl QAMATS QATAN;@5D0 1:aa ec;BET;pw;DALET",
    "HE;VAV;sg;HET;TET;YOD;ar yp;2:yp;LAMED;ar MEM;2:MEM;ar qr;2:qr;lz;AYIN;ar PE;2:PE;ar TSADI",
    "2:TSADI;QOF;RESH;mw;TAV;@5EF 1:YOD bg;1:em YIDDISH al VAV;3:VAV YOD;3:al YOD;1:cc GERESH",
    "GERSHAYIM;@600 0:kk dq ak;1:ak SANAH;1:FOOTNOTE wy;1:ak SAFHA;SAMVAT;1:dq bj aj",
    "0:ii CUBE ROOT;1:FOURTH ROOT;0:kk RAY;0:ii PER MILLE ak;2:jx ba ak;0:AFGHANI ak;0:kk et",
    "DATE fh;1:POETIC VERSE ak;1:ak MISRA;SALLALLAHOU ALAYHE WASSALLAM;2:ALAYHE ASSALLAM",
    "2:RAHMATULLAH ALAYHE;2:RADI ALLAHOU ANHU;2:TAKHALLUS;1:ad ga TAH;em ec ab tu ab hl;3:zv;2:ud",
    "ya;tk;1:jt;aa bj;1:yf OF TEXT bj;1:es cy cc bj;1:fc bj;1:aa KASHMIRI hl;2:hz;ec ab MADDA aj",
    "4:hz aj;2:tt ab hz aj;2:ec ab hz aq;2:hl ab hz aj;2:ec;BEH;TEH MARBUTA;2:TEH;THEH;fj;iz;ia",
    "DAL;THAL;xo;zv;oj;na;SAD;DAD;TAH;ZAH;vz;ot;KEHEH ab co du aj;4:aw du aq;2:FARSI hl ab ca V",
    "5:co du aj;5:aw du aj;1:TATWEEL;aa FEH;QAF;yp;tu;cv;ke;zw;tt;ec ci;2:hl;1:ue;yb;yq;ud;ya;tk",
    "SHADDA;SUKUN;MADDAH aj;1:hz aj;aq;1:pj ec;1:ca ya;1:bj ke GHUNNA;1:ZWARAKAY;cm ak ad V aj",
    "3:ca ad V aj;3:cy aq;1:bq ya;1:ud ab co du;1:WAVY hz aq;0:ii cr ex;cs;co;aw;bt;by;fx;bv;br;dm",
    "0:kk PERCENT ak;1:DECIMAL fh;1:nn fh;1:by fa hk;1:aa la BEH;QAF;2:hm ec;2:ec WASLA",
    "ab WAVY hz aj;aq;2:ga hz;4:ec;tt;2:U ab hz aj;2:ga hz hl;2:TTEH;TTEHEH;BEEH;TEH ab ei",
    "aw du aj ay;2:PEH;TEHEH;BEHEH;iz ab hz aj;4:co du an aj;2:NYEH;DYEH;iz ab aw du aj;2:TCHEH",
    "TCHEHEH;DDAL;DAL ab ei;cy aq;6:bi ad TAH;2:DAHAL;DDAHAL;DUL;DAL ab aw du aj ay;4:bt du aj",
    "2:RREH;xo ab ad V;4:ei;cy aq;4:ad V aq;4:cy aq bi cy aj;4:co du aj;2:JEH;xo ab bt du aj",
    "2:oj ab cy aq bi cy aj;4:aw du aq;7:bi aw du aj;2:SAD ab co du aq;4:aw du aj",
    "2:TAH ab aw du aj;2:vz ab aw du aj;2:la FEH;2:FEH ab cy MOVED aq;5:aq;2:VEH;FEH ab aw du aq",
    "2:PEHEH;QAF ab cy aj;4:aw du aj;2:KEHEH;SWASH yp;2:yp ab ei;cy aj;2:NG;yp ab aw du aq;2:GAF",
    "3:ab ei;2:NGOEH;GAF ab co du aq;2:GUEH;GAF ab aw du aj;2:tu ab ad V;4:cy aj;4:aw du aj;aq",
    "2:ke ab cy aq;3:GHUNNA;2:RNOON;ke ab ei;aw du aj;2:zw DOACHASHMEE;2:TCHEH ab cy aj",
    "2:zw ab hl aj;3:GOAL;4:ab hz aj;2:TEH MARBUTA GOAL;2:tt ab ei;2:KIRGHIZ OE;2:OE;U;YU",
    "KIRGHIZ YU;2:tt ab co du aj;2:VE;FARSI hl;2:hl ab hw;ad V;2:tt ab cy aj;2:E;hl ab aw du aq",
    "3:BARREE;4:ab hz aj;1:if ge;1:aa AE;1:ad ga em SAD ab tu ab ec ci;4:QAF ab tu ab ec ci",
    "3:cv ap af;3:tu ec;3:fj;aw du;3:oj;1:yf OF AYAH;1:START OF RUB EL HIZB;1:ad ga pc ex",
    "3:UPRIGHT RECTANGULAR ex;3:la tq OF ia;3:cv ag af;2:is oj;2:ga MADDA;2:tt;hl;ga hl;ke",
    "1:PLACE OF SAJDAH;1:EMPTY dz is ge;3:ga ge;1:pc ga ge ab FILLED dz;1:ad is cv",
    "1:aa DAL ab ca V;2:xo ab ca V;0:pu ii cr ex;cs;co;aw;bt;by;fx;bv;br;dm;0:kk aa na ab cy aq",
    "2:DAD ab cy aq;2:ot ab cy aq;1:ak SINDHI nd;POSTPOSITION MEN;1:aa zw ab ca V",
    "0:SYRIAC yf OF vp;1:SUPRALINEAR if ge;1:SUBLINEAR if ge;1:SUPRALINEAR iw;1:SUBLINEAR iw",
    "1:as iw;1:iw SKEWED av;ai;1:SUPRALINEAR iw SKEWED av;1:SUBLINEAR iw SKEWED ai;1:CONTRACTION",
    "HARKLEAN OBELUS;METOBELUS;ASTERISCUS;@70F 1:eu bj;1:aa ALAPH;hm ALAPH;2:vv;GAMAL;3:GARSHUNI",
    "2:DALATH;la DALATH RISH;2:HE;tt;zv;yk;TETH;3:GARSHUNI;2:YUDH;3:HE;2:ws;LAMADH;MIM;qr;SEMKATH",
    "ar SEMKATH;2:E;PE;bq PE;2:rc;QAPH;RISH;mw;TAW;PERSIAN BHETH;GHAMAL;DHALATH;1:PTHAHA aj;aq;fy",
    "1:ZQAPHA aj;aq;fy;1:RBASA aj;aq;1:fy ZLAMA as;ANGULAR;1:HBASA aj;aq;1:HBASA-ESASA fy",
    "1:ESASA aj;aq;1:RWAHA;FEMININE cy;1:QUSHSHAYA;RUKKAKHA;co an du aj;aq;1:aw du aj;aq",
    "1:kr gw aj;aq;1:MUSIC;BARREKH;@74D aa SOGDIAN ZHAIN;KHAPH;FE",
    "0:kk aa BEH ab aw du HORIZONTALLY aq;4:cy aq bi aw du aj;4:aw du cb bp aq;9:bi co du aj",
    "4:co du aq bi cy aj;4:ca ad V aq;4:ad V;2:iz ab co du aj;4:aw du cb bp aq",
    "2:DAL ab co du nq aq bi ad TAH;4:ca ad V aq;2:xo ab at;2:oj ab bt du aj;2:vz ab co du aj",
    "4:aw du cb ay aj;4:co du nq aj;2:FEH ab co du aq;4:aw du cb bp aq;2:KEHEH ab cy aj;4:aw du aj",
    "cb bp aq;2:cv ab cy aj;aq;2:ke ab co du aq;4:ad TAH;V;2:tu ab gf;2:xo ab co du nq aj;4:hz aj",
    "2:oj ab co du nq aj;2:iz ab ad kk aa TAH aq;bi co du;2:oj ab ad kk aa TAH bi co du",
    "2:xo ab ad kk aa TAH bi co du;2:iz ab ad kk aa TAH aj;2:ec ab pu ii cr co aj;7:aw aj",
    "2:FARSI hl ab pu ii cr co aj;8:aw aj;8:bt aq;2:tt ab pu ii cr co aj;7:aw aj",
    "2:hl BARREE ab pu ii cr co aj;8:aw aj;2:iz ab pu ii cr bt aq;2:oj ab pu ii cr bt aj;4:ca V",
    "2:yp ab co du aj;0:THAANA aa HAA;SHAVIYANI;NOONU;RAA;BAA;LHAVIYANI;KAAFU;ALIFU;VAAVU;MEEMU",
    "FAAFU;DHAALU;THAA;LAAMU;GAAFU;GNAVIYANI;SEENU;DAVIYANI;ZAVIYANI;TAVIYANI;YAA;PAVIYANI",
    "JAVIYANI;CHAVIYANI;TTAA;HHAA;KHAA;THAALU;ZAA;SHEENU;SAADHU;DAADHU;TO;ZO;AINU;GHAINU;QAAFU",
    "WAAVU;1:ABAFILI;AABAAFILI;IBIFILI;EEBEEFILI;UBUFILI;OOBOOFILI;EBEFILI;EYBEYFILI;OBOFILI",
    "OABOAFILI;SUKUN;aa NAA;@7C0 0:NKO cr ex;cs;co;aw;bt;by;fx;bv;br;dm;1:aa A;EE;I;E;U;OO;O",
    "DAGBASINNA;N;BA;PA;TA;JA;lg;DA;RA;RRA;SA;GBA;FA;KA;LA;NA WOLOSO;2:MA;lj;NA;HA;WA;YA;lj WOLOSO",
    "2:JONA JA;lg;RA;1:dj fu ga fi;3:is fi;3:op fi;2:fl DESCENDING fi;3:ga fi;3:is fi;3:op fi",
    "2:yw bj;2:al cy aj;1:ga fi ku;1:is fi ku;1:au OO DENNEN;2:GBAKURUNEN;1:et;dw bj;1:LAJANYALAN",
    "@7FD DANTAYALAN;DOROME ak;1:TAMAN ak;0:SAMARITAN aa ALAF;BIT;GAMAN;DALAT;IY;BAA;ZEN;IT;TIT",
    "YUT;KAAF;LABAT;MIM;qr;SINGAAT;IN;FI;TSAADIY;QUF;RISH;SHAN;TAAF;1:bj IN;IN-ALAF;OCCLUSION;ix",
    "1:ev aa EPENTHETIC YUT;1:bj EPENTHETIC YUT;1:cm ak fl E;3:E;OVERLONG AA;3:fl AA;3:AA",
    "OVERLONG A;3:fl A;3:A;1:ev aa fu A;1:cm ak fu A;3:fl U;3:U;1:ev aa I;1:cm ak fl I;3:I;O;SUKUN",
    "1:bj NEQUDAA;@830 1:cc NEQUDAA;AFSAAQ;ANGED;BAU;ATMAAU;SHIYYAALAA;1:eu bj;1:cc MELODIC QITSA",
    "2:ZIQAA;QITSA;ZAEF;TURU;ARKAANU;SOF MASHFAAT;2:ANNAAU;@840 0:MANDAIC aa HALQA;AB;AG;AD;AH",
    "USHENNA;AZ;IT;ATT;AKSA;AK;+3;AS;IN;AP;ASZ;AQ;+;qt;AT;DUSHENNA;KAD;vz;1:AFFRICATION bj",
    "1:VOCALIZATION bj;1:sp bj;@85E 1:cc;@860 0:SYRIAC aa MALAYALAM kp;JA;lj;pf;qz;NNNA;re;RA;LLA",
    "LLLA;td;@870 0:kk aa ec ab tx ud;se ai ud;4:ai bb at;4:av bb at;4:tx tk;ha ai tk;5:va cy aj",
    "5:ai va cy;5:av va cy;5:va cy aq;4:cy aj;4:tx se ai ud bi cy aj;4:ai bb at bi cy aj",
    "4:tx ha ai tk bi cy aj;5:se ai ud bi av ei;4:ai bb at bi av ei;4:tx ha ai tk bi av ei;5:ai hz",
    "5:av hz;1:TATWEEL ab OVERSTRUCK hz;tt;3:co du aq;1:aa THIN hl;1:BASELINE va cy;1:ig va cy",
    "1:aa ke ab ca ad V;2:iz ab ca ad V aq;2:TAH ab cy aq;4:aw du aq;2:KEHEH ab co du nq aq",
    "1:an hw;@890 1:POUND bj aj;1:PIASTRE bj aj;@898 1:ad ga zt AL-JUZ;2:is zt ISHMAAM;IMAALA",
    "TASHEEL;1:MADDA WAAJIB;1:hm ec MOKHASSAS;1:DOUBLED MADDA;1:dg MADDA dy MADDA",
    "1:aa BEH ab ad V aq;4:hz aj;2:fj ab co du aj;2:TAH ab co du aj;2:FEH ab cy aq bi aw du aj",
    "2:QAF ab cy aq;2:tu ab al gf;2:cv ab aw du aj;2:hl ab co du aq bi hz aj;8:cy aj;2:xo ab uq",
    "2:tt ab cy WITHIN;2:ROHINGYA hl;2:is ec;2:DAL ab aw du aq;2:SAD ab aw du aq;2:GAF ab ca at",
    "2:gj tt;2:zv ab ca V aj;2:vz ab aw du aq;2:yp ab cy aq;2:QAF ab cy aq bi NO du aj",
    "2:BEH ab ad cv aj;2:PEH ab ad cv aj;2:TEH ab ad TEH aj;2:xo ab ad ke aj",
    "2:hl ab co du aq bi ad ke aj;2:AFRICAN FEH;QAF;ke;2:PEH ab ad V;2:TEH ab ad V;2:TTEH ab ad V",
    "2:TCHEH ab ad V;2:KEHEH ab ad V;2:ot ab aw du aj;2:AFRICAN QAF ab aw du aj;2:fj ab aw du aj",
    "aq;2:tu ab ad kk aa TAH aj;2:GRAF;1:ad FARSI hl;2:ga FARSI hl;3:hl BARREE ab co du aq",
    "3:zt SAH;3:ZAH;1:ee va cy aj;aq;1:SUKUN aq;1:ee bo aq;2:va cy kl bo aq;1:ad is tt",
    "2:ga zt AR-RUB;3:SAD;vz;QAF;ke ab tk;2:is ke ab tk;2:ga zt ATH-THALATHA;AS-SAJDA;AN-NISF",
    "SAKTA;QIF;WAQFA;3:FOOTNOTE wy;3:ak SAFHA;1:DISPUTED yf OF AYAH;1:ch ya aq;1:kc ud;ya;tk;ue;yb",
    "yq;1:fi cs cy aj;2:co du aj;2:uq aj;2:cs cy aq;2:co du aq;2:uq aq;1:fg ue;yb;yq;1:ad ga tt",
    "1:ud ab ei;cy aj;1:tk ab cy aq;1:av bm aj;1:ai bm aj;1:av bm aq;1:ai bm aq;1:al ai bm aj",
    "5:ab cy;1:ai bm aj ab cy;1:ya ab cy;1:bj ok ke GHUNNA;0:DEVANAGARI ak ca df;2:df;ct;ew",
    "1:aa fu A;2:A;AA;I;II;U;UU;cw R;L;2:mj E;2:fu E;2:E;AI;mj O;2:fu O;2:O;AU;KA;lo;GA;qq;kp;CA",
    "lg;JA;ul;lj;pf;jv;ph;ka;qz;TA;mh;DA;po;NA;NNNA;PA;nx;BA;re;MA;YA;RA;RRA;LA;LLA;LLLA;VA;kt;td",
    "SA;HA;1:cm ak OE;OOE;1:ak kq;io;1:cm ak AA;I;II;U;UU;cw R;RR;3:mj E;3:fu E;3:E;AI;mj O;3:fu O",
    "3:O;AU;1:ak fn;1:cm ak wf E;3:AW;1:OM;STRESS ak UDATTA;xp;1:ef fs;1:db fs;1:cm ak mj fl E",
    "3:UE;UUE;1:aa QA;KHHA;GHHA;ZA;DDDHA;RHA;FA;YYA;cw RR;LL;1:cm ak cw L;LL;1:jc;al jc;1:cr ex;cs",
    "co;aw;bt;by;fx;bv;br;dm;1:eu ak;1:ak ga SPACING cy;1:aa mj A;2:OE;OOE;AW;UE;UUE;MARWARI ph",
    "2:ZHA;bl YA;2:GGA;JJA;go ge;2:DDDA;BBA;0:BENGALI ANJI;ak df;ct;ew;@985 1:aa A;AA;I;II;U;UU",
    "cw R;L;@98F 2:E;AI;@993 O;AU;KA;lo;GA;qq;kp;CA;lg;JA;ul;lj;pf;jv;ph;ka;qz;TA;mh;DA;po;NA",
    "@9AA PA;nx;BA;re;MA;YA;RA;@9B2 LA;@9B6 kt;td;SA;HA;@9BC 1:ak kq;io;1:cm ak AA;I;II;U;UU;cw R",
    "RR;@9C7 3:E;AI;@9CB O;AU;1:ak fn;1:aa KHANDA TA;@9D7 1:AU mp bj;@9DC 1:aa RRA;RHA;@9DF YYA",
    "cw RR;LL;1:cm ak cw L;LL;@9E6 1:cr ex;cs;co;aw;bt;by;fx;bv;br;dm;1:aa RA ab bb dl;4:cu dl",
    "1:RUPEE bj;ak;1:xz NUMERATOR cs;co;aw;bt;cs LESS THAN ts DENOMINATOR;2:DENOMINATOR pd",
    "1:ISSHAR;GANDA bj;1:aa VEDIC ct;1:eu ak;1:SANDHI bj;@A01 0:GURMUKHI ak ADAK BINDI;2:BINDI;ew",
    "@A05 1:aa A;AA;I;II;U;UU;@A0F EE;AI;@A13 OO;AU;KA;lo;GA;qq;kp;CA;lg;JA;ul;lj;pf;jv;ph;ka;qz",
    "TA;mh;DA;po;NA;@A2A PA;nx;BA;re;MA;YA;RA;@A32 LA;LLA;@A35 VA;kt;@A38 SA;HA;@A3C 1:ak kq",
    "@A3E 1:cm ak AA;I;II;U;UU;@A47 EE;AI;@A4B OO;AU;1:ak fn;@A51 UDAAT;@A59 1:aa KHHA;GHHA;ZA;RRA",
    "@A5E FA;@A66 1:cr ex;cs;co;aw;bt;by;fx;bv;br;dm;1:TIPPI;ADDAK;IRI;URA;EK ONKAR;1:ak YAKASH",
    "1:eu ak;@A81 0:GUJARATI ak df;ct;ew;@A85 1:aa A;AA;I;II;U;UU;cw R;L;1:cm mj E;@A8F 1:aa E;AI",
    "1:cm mj O;@A93 1:aa O;AU;KA;lo;GA;qq;kp;CA;lg;JA;ul;lj;pf;jv;ph;ka;qz;TA;mh;DA;po;NA;@AAA PA",
    "nx;BA;re;MA;YA;RA;@AB2 LA;LLA;@AB5 VA;kt;td;SA;HA;@ABC 1:ak kq;io;1:cm ak AA;I;II;U;UU;cw R",
    "RR;3:mj E;@AC7 3:E;AI;mj O;@ACB 3:O;AU;1:ak fn;@AD0 1:OM;@AE0 aa cw RR;LL;1:cm ak cw L;LL",
    "@AE6 1:cr ex;cs;co;aw;bt;by;fx;bv;br;dm;1:eu ak;1:RUPEE ak;@AF9 1:aa ZHA;1:ak SUKUN;SHADDA",
    "MADDAH;THREE-DOT kq aj;2:bo kq aj;2:TWO-CIRCLE kq aj;@B01 0:ORIYA ak df;ct;ew;@B05 1:aa A;AA",
    "I;II;U;UU;cw R;L;@B0F 2:E;AI;@B13 O;AU;KA;lo;GA;qq;kp;CA;lg;JA;ul;lj;pf;jv;ph;ka;qz;TA;mh;DA",
    "po;NA;@B2A PA;nx;BA;re;MA;YA;RA;@B32 LA;LLA;@B35 VA;kt;td;SA;HA;@B3C 1:ak kq;io;1:cm ak AA;I",
    "II;U;UU;cw R;RR;@B47 3:E;AI;@B4B O;AU;1:ak fn;@B55 qg;1:AI mp bj;1:AU mp bj;@B5C 1:aa RRA;RHA",
    "@B5F YYA;cw RR;LL;1:cm ak cw L;LL;@B66 1:cr ex;cs;co;aw;bt;by;fx;bv;br;dm;1:ISSHAR;aa WA",
    "1:hq cs fk;dg;2:aw ji;2:cs sc;hy;2:aw xi;@B82 0:TAMIL ak ct;ew;@B85 1:aa A;AA;I;II;U;UU",
    "@B8E E;EE;AI;@B92 O;OO;AU;KA;@B99 kp;CA;@B9C JA;@B9E lj;pf;@BA3 qz;TA;@BA8 NA;NNNA;PA;@BAE MA",
    "YA;RA;RRA;LA;LLA;LLLA;VA;kt;td;SA;HA;@BBE 1:cm ak AA;I;II;U;UU;@BC6 E;EE;AI;@BCA O;OO;AU",
    "1:ak fn;@BD0 1:OM;@BD7 AU mp bj;@BE6 1:cr ex;cs;co;aw;bt;by;fx;bv;br;dm;1:dq jx;cs az;ba",
    "1:DAY ak;1:MONTH ak;1:YEAR ak;1:DEBIT ak;1:CREDIT ak;1:AS aj ak;1:RUPEE ak;1:dq ak",
    "@C00 0:TELUGU ak dj df aj;2:df;ct;ew;dj ct aj;1:aa A;AA;I;II;U;UU;cw R;L;@C0E 2:E;EE;AI",
    "@C12 O;OO;AU;KA;lo;GA;qq;kp;CA;lg;JA;ul;lj;pf;jv;ph;ka;qz;TA;mh;DA;po;NA;@C2A PA;nx;BA;re;MA",
    "YA;RA;RRA;LA;LLA;LLLA;VA;kt;td;SA;HA;@C3C 1:ak kq;io;1:cm ak AA;I;II;U;UU;cw R;RR;@C46 3:E;EE",
    "AI;@C4A O;OO;AU;1:ak fn;@C55 1:mp bj;1:AI mp bj;@C58 1:aa zo;DZA;RRRA;@C5D NAKAARA POLLU",
    "@C60 2:cw RR;LL;1:cm ak cw L;LL;@C66 1:cr ex;cs;co;aw;bt;by;fx;bv;br;dm;@C77 1:ak vq",
    "1:hq cr ex tp ODD POWERS OF bt;3:cs tp ODD POWERS OF bt;3:co tp ODD POWERS OF bt",
    "3:aw tp ODD POWERS OF bt;3:cs tp EVEN POWERS OF bt;3:co tp EVEN POWERS OF bt",
    "3:aw tp EVEN POWERS OF bt;1:ak TUUMU;0:KANNADA ak SPACING df;2:df;ct;ew;vq;1:aa A;AA;I;II;U",
    "UU;cw R;L;@C8E 2:E;EE;AI;@C92 O;OO;AU;KA;lo;GA;qq;kp;CA;lg;JA;ul;lj;pf;jv;ph;ka;qz;TA;mh;DA",
    "po;NA;@CAA PA;nx;BA;re;MA;YA;RA;RRA;LA;LLA;@CB5 VA;kt;td;SA;HA;@CBC 1:ak kq;io;1:cm ak AA;I",
    "II;U;UU;cw R;RR;@CC6 3:E;EE;AI;@CCA O;OO;AU;1:ak fn;@CD5 1:mp bj;1:AI mp bj",
    "@CDD 1:aa NAKAARA POLLU;2:FA;@CE0 cw RR;LL;1:cm ak cw L;LL;@CE6 1:cr ex;cs;co;aw;bt;by;fx;bv",
    "br;dm;@CF1 1:ak oe;om;@D00 0:MALAYALAM ak dj ct aj;2:df;ct;ew;1:aa VEDIC ct;2:A;AA;I;II;U;UU",
    "cw R;L;@D0E 2:E;EE;AI;@D12 O;OO;AU;KA;lo;GA;qq;kp;CA;lg;JA;ul;lj;pf;jv;ph;ka;qz;TA;mh;DA;po",
    "NA;NNNA;PA;nx;BA;re;MA;YA;RA;RRA;LA;LLA;LLLA;VA;kt;td;SA;HA;TTTA;1:ak an gf fn;2:xv fn;2:io",
    "1:cm ak AA;I;II;U;UU;cw R;RR;@D46 3:E;EE;AI;@D4A O;OO;AU;1:ak fn;1:aa cy REPH;1:ak PARA",
    "@D54 1:aa CHILLU M;Y;LLL;1:AU mp bj;1:hq cs rl;FORTIETH;2:aw EIGHTIETHS;2:cs TWENTIETH;TENTH",
    "2:aw TWENTIETHS;2:cs FIFTH;1:aa iv II;2:cw RR;LL;1:cm ak cw L;LL;@D66 1:cr ex;cs;co;aw;bt;by",
    "fx;bv;br;dm;1:dq jx;cs az;ba;1:hq cs fk;dg;2:aw ji;2:cs sc;hy;2:aw xi;1:DATE bj",
    "1:aa CHILLU NN;N;RR;L;LL;K;@D81 0:SINHALA ak df;ANUSVARAYA;VISARGAYA;@D85 1:aa AYANNA;AAYANNA",
    "AEYANNA;AEEYANNA;IYANNA;IIYANNA;UYANNA;UUYANNA;IRUYANNA;IRUUYANNA;ILUYANNA;ILUUYANNA;EYANNA",
    "EEYANNA;AIYANNA;OYANNA;OOYANNA;AUYANNA;@D9A jz KAYANNA;2:je KAYANNA;2:jz GAYANNA;2:je GAYANNA",
    "2:KANTAJA NAASIKYAYA;2:SANYAKA GAYANNA;2:jz CAYANNA;2:je CAYANNA;2:jz JAYANNA;2:je JAYANNA",
    "2:TAALUJA NAASIKYAYA;SANYOOGA NAAKSIKYAYA;2:SANYAKA JAYANNA;2:jz TTAYANNA;2:je TTAYANNA",
    "2:jz DDAYANNA;2:je DDAYANNA;2:MUURDHAJA NAYANNA;2:SANYAKA DDAYANNA;2:jz TAYANNA;2:je TAYANNA",
    "2:jz DAYANNA;2:je DAYANNA;2:DANTAJA NAYANNA;@DB3 2:SANYAKA DAYANNA;2:jz PAYANNA;2:je PAYANNA",
    "2:jz BAYANNA;2:je BAYANNA;2:MAYANNA;AMBA BAYANNA;2:YAYANNA;RAYANNA;@DBD DANTAJA LAYANNA",
    "@DC0 2:VAYANNA;TAALUJA SAYANNA;2:MUURDHAJA SAYANNA;2:DANTAJA SAYANNA;2:HAYANNA",
    "MUURDHAJA LAYANNA;2:FAYANNA;@DCA 1:ak AL-LAKUNA;@DCF 1:cm ak AELA-PILLA;KETTI AEDA-PILLA",
    "3:DIGA AEDA-PILLA;3:KETTI IS-PILLA;3:DIGA IS-PILLA;3:KETTI PAA-PILLA;@DD6 3:DIGA PAA-PILLA",
    "@DD8 3:GAETTA-PILLA;KOMBUVA;DIGA KOMBUVA;3:KOMBU DEKA;3:KOMBUVA HAA AELA-PILLA",
    "DIGA AELA-PILLA;5:GAYANUKITTA;3:GAYANUKITTA;@DE6 1:LITH cr ex;cs;co;aw;bt;by;fx;bv;br;dm",
    "@DF2 1:cm ak DIGA GAETTA-PILLA;GAYANUKITTA;1:cc KUNDDALIYA;@E01 0:THAI ma KO KAI;2:KHO KHAI",
    "KHUAT;KHWAI;KHON;RAKHANG;2:NGO NGU;2:CHO CHAN;CHING;CHANG;2:SO SO;2:CHO CHOE;2:YO YING",
    "2:DO CHADA;2:TO PATAK;2:THO THAN;NANGMONTHO;PHUTHAO;2:NO NEN;2:DO DEK;2:TO TAO;2:THO THUNG",
    "THAHAN;THONG;2:NO NU;2:BO BAIMAI;2:PO PLA;2:PHO PHUNG;2:FO FA;2:PHO PHAN;2:FO FAN",
    "2:PHO SAMPHAO;2:MO MA;2:YO YAK;2:RO RUA;2:RU;LO LING;2:LU;WO WAEN;2:SO SALA;RUSI;SUA;2:HO HIP",
    "2:LO CHULA;2:O ANG;2:HO NOKHUK;2:PAIYANNOI;SARA A;2:MAI HAN-AKAT;2:SARA AA;AM;I;II;UE;UEE;U",
    "UU;2:PHINTHU;@E3F 1:xz au BAHT;1:ma SARA E;AE;O;AI MAIMUAN;MAIMALAI;2:LAKKHANGYAO;MAIYAMOK",
    "MAITAIKHU;MAI EK;THO;TRI;CHATTAWA;2:THANTHAKHAT;NIKHAHIT;YAMAKKAN;FONGMAN;1:cr ex;cs;co;aw;bt",
    "by;fx;bv;br;dm;1:ma ANGKHANKHU;KHOMUT;@E81 0:LAO aa KO;KHO SUNG;@E84 TAM;@E86 2:PALI qq;2:NGO",
    "CO;PALI lg;2:SO TAM;@E8C 2:PALI ul;2:NYO;PALI lj;pf;jv;ph;ka;qz;2:DO;TO;THO SUNG;TAM",
    "2:PALI po;2:NO;BO;PO;PHO SUNG;2:FO TAM;2:PHO TAM;2:FO SUNG;2:PALI re;2:MO;YO;LO LING",
    "@EA5 LOOT;@EA7 2:WO;SANSKRIT kt;td;2:SO SUNG;2:HO SUNG;2:PALI LLA;2:O;HO TAM;1:ps;cm ak A",
    "MAI KAN;3:AA;AM;I;II;Y;YY;U;UU;1:ak PALI fn;1:cm ak MAI KON;1:SEMIVOWEL ak LO;NYO",
    "@EC0 1:cm ak E;EI;O;AY;AI;@EC6 1:KO LA;@EC8 1:fi MAI EK;THO;TI;CATAWA;1:sk bj;1:NIGGAHITA",
    "@ED0 cr ex;cs;co;aw;bt;by;fx;bv;br;dm;@EDC 1:HO NO;MO;1:aa KHMU GO;NYO;@F00 0:TIBETAN iu OM",
    "1:bj GTER YIG MGO TRUNCATED A;5:-UM RNAM BCAD MA;6:GTER wk MA;2:ap YIG MGO MDUN MA",
    "2:CLOSING YIG MGO SGAB MA;2:xu YIG MGO PHUR xf MA;2:YIG MGO wk xf MA;2:SBRUL xf",
    "2:BSKUR YIG MGO;2:BKA- SHOG YIG MGO;2:INTERSYLLABIC wk;2:DELIMITER wk BSTAR;2:xf;NYIS xf",
    "2:wk xf;2:NYIS wk xf;2:RIN CHEN SPUNGS xf;2:RGYA GRAM xf;2:xu -DZUD vb ME fl CAN;2:GTER wk",
    "1:LOGOTYPE ak CHAD vb;3:LHAG vb;1:ASTROLOGICAL ak SGRA GCAN -CHAR vb;3:-KHYUD PA",
    "3:SDONG TSHUGS;1:ak RDEL DKAR GCIG;GNYIS;GSUM;3:NAG GCIG;GNYIS;3:DKAR RDEL NAG;1:cr ex;cs;co",
    "aw;bt;by;fx;bv;br;dm;dg cs;co;aw;bt;by;fx;bv;br;dm;ex;1:bj BSDUS vb;2:NGAS BZUNG NYI ZLA",
    "2:xu -DZUD vb BZHI MIG CAN;2:NGAS BZUNG SGOR vb;2:CHE MGO;2:zo -PHRU;2:GUG vb GYON;GYAS",
    "2:ANG KHANG GYON;GYAS;1:ak YAR TSHES;2:MAR TSHES;1:aa KA;lo;GA;qq;kp;CA;lg;JA;@F49 lj;pf;jv",
    "ph;ka;qz;TA;mh;DA;po;NA;PA;nx;BA;re;MA;zo;zp;DZA;DZHA;WA;ZHA;ZA;-A;YA;RA;LA;kt;td;SA;HA;A",
    "KSSA;FIXED-FORM RA;2:KKA;RRA;@F71 1:cm ak AA;I;II;U;UU;cw R;RR;L;LL;3:E;EE;O;OO",
    "1:ak RJES SU kp RO;2:RNAM BCAD;1:cm ak bq I;II;1:ak NYI ZLA NAA DA;2:SNA LDAN;1:bj HALANTA",
    "PALUTA;1:ak LCI vb;2:YANG vb;2:LCE zo CAN;2:MCHU CAN;2:GRU CAN RGYINGS;3:MED RGYINGS",
    "2:ca MCHU CAN;1:sd ak LCE zo CAN;3:MCHU CAN;3:ca MCHU CAN;2:aa KA;lo;GA;qq;kp;CA;lg;JA",
    "@F99 lj;pf;jv;ph;ka;qz;TA;mh;DA;po;NA;PA;nx;BA;re;MA;zo;zp;DZA;DZHA;WA;ZHA;ZA;-A;YA;RA;LA;kt",
    "td;SA;HA;A;KSSA;FIXED-FORM WA;YA;RA;@FBE 1:KU RU lo;4:BZHI MIG CAN;1:CANTILLATION ak bl BEAT",
    "3:cl BEAT;3:CANG TE-U;3:SBUB -CHAL;1:au DRIL BU;2:RDO RJE;2:PADMA GDAN;2:RDO RJE RGYA GRAM",
    "2:PHUR PA;2:NOR BU;4:NYIS -KHYIL;4:GSUM -KHYIL;4:BZHI -KHYIL;@FCE 1:ak RDEL NAG RDEL DKAR",
    "4:GSUM;1:bj BSKA- SHOG GI MGO RGYAN;2:MNYAM YIG GI MGO RGYAN;2:NYIS wk",
    "2:ap BRDA RNYING YIG MGO MDUN MA;2:CLOSING BRDA RNYING YIG MGO SGAB MA;0:sz SVASTI ak",
    "0:up SVASTI ak;0:sz SVASTI ak ab du;0:up SVASTI ak ab du;0:TIBETAN bj LEADING MCHAN vb",
    "2:TRAILING MCHAN vb;@1000 0:MYANMAR aa KA;lo;GA;qq;kp;CA;lg;JA;ul;lj;NNYA;pf;jv;ph;ka;qz;TA",
    "mh;DA;po;NA;PA;nx;BA;re;MA;YA;RA;LA;WA;SA;HA;LLA;A;SHAN A;2:I;II;U;UU;E;MON E;2:O;AU",
    "1:cm ak TALL AA;3:AA;I;II;U;UU;E;AI;MON II;O;3:E aj;1:ak ct;cy aq;2:ew;fn;ASAT;1:fq ak cf YA",
    "RA;WA;HA;1:aa GREAT SA;1:cr ex;cs;co;aw;bt;by;fx;bv;br;dm;1:ak ea hi;2:hi;1:au LOCATIVE",
    "COMPLETED;AFOREMENTIONED;GENITIVE;1:aa kt;td;cw R;RR;L;LL;1:cm ak cw R;RR;L;LL;1:aa MON kp;ul",
    "BBA;BBE;1:fq ak MON cf NA;MA;LA;1:aa SGAW KAREN kt;1:cm ak SGAW KAREN EU",
    "1:fi bj SGAW KAREN HATHI;KE PHO;1:aa WESTERN PWO KAREN mh;PWA;1:cm ak WESTERN PWO KAREN EU;UE",
    "1:ak WESTERN PWO KAREN TONE-1;+4;1:aa EASTERN PWO KAREN qz;YWA;GHWA;1:cm ak GEBA KAREN I",
    "3:KAYAH OE;U;EE;1:aa SHAN KA;lo;GA;CA;ZA;lj;DA;NA;nx;FA;BA;mh;HA;1:fq ak SHAN cf WA",
    "1:cm ak SHAN AA;E;5:aj;4:ar Y;1:ak SHAN TONE-2;+;TONE-5;+;COUNCIL TONE-2;+;EMPHATIC fi",
    "1:aa RUMAI PALAUNG FA;1:ak RUMAI PALAUNG TONE-5;1:SHAN cr ex;cs;co;aw;bt;by;fx;bv;br;dm",
    "1:ak KHAMTI TONE-1;TONE-3;1:cm ak AITON A;AI;1:au SHAN cs;dw;0:yj ac aa AN;BAN;GAN;DON;EN;VIN",
    "ZEN;TAN;IN;KAN;LAS;MAN;NAR;ON;PAR;ZHAR;RAE;SAN;TAR;UN;PHAR;KHAR;GHAN;QAR;mw;CHIN;CAN;JIL;CIL",
    "CHAR;XAN;JHAN;HAE;HE;HIE;WE;HAR;HOE;@10C7 YN;@10CD AEN;@10D0 1:aa AN;BAN;GAN;DON;EN;VIN;ZEN",
    "TAN;IN;KAN;LAS;MAN;NAR;ON;PAR;ZHAR;RAE;SAN;TAR;UN;PHAR;KHAR;GHAN;QAR;mw;CHIN;CAN;JIL;CIL;CHAR",
    "XAN;JHAN;HAE;HE;HIE;WE;HAR;HOE;FI;YN;ELIFI;ch GAN;2:vz;1:vp fh;0:ev aa yj NAR;0:yj aa AEN",
    "HARD ak;2:LABIAL ak;0:ui CHOSEONG wu;ve;NIEUN;xm;vf;RIEUL;MIEUM;PIEUP;xk;SIOS;SSANGSIOS;IEUNG",
    "CIEUC;xj;sm;ss;tg;sx;HIEUH;NIEUN-KIYEOK;SSANGNIEUN;yx;NIEUN-PIEUP;TIKEUT-KIYEOK;RIEUL-NIEUN",
    "SSANGRIEUL;ux;KAPYEOUNRIEUL;MIEUM-PIEUP;wb;PIEUP-KIYEOK;PIEUP-NIEUN;zd;xb;zc;rb",
    "PIEUP-SIOS-PIEUP;PIEUP-SSANGSIOS;PIEUP-SIOS-CIEUC;PIEUP-CIEUC;PIEUP-CHIEUCH;PIEUP-THIEUTH",
    "PIEUP-PHIEUPH;wc;wt;SIOS-KIYEOK;SIOS-NIEUN;SIOS-TIKEUT;SIOS-RIEUL;SIOS-MIEUM;SIOS-PIEUP",
    "SIOS-PIEUP-KIYEOK;SIOS-SSANGSIOS;SIOS-IEUNG;SIOS-CIEUC;SIOS-CHIEUCH;SIOS-KHIEUKH;SIOS-THIEUTH",
    "SIOS-PHIEUPH;SIOS-HIEUH;CHITUEUMSIOS;CHITUEUMSSANGSIOS;CEONGCHIEUMSIOS;CEONGCHIEUMSSANGSIOS",
    "PANSIOS;IEUNG-KIYEOK;IEUNG-TIKEUT;IEUNG-MIEUM;IEUNG-PIEUP;IEUNG-SIOS;IEUNG-PANSIOS;SSANGIEUNG",
    "IEUNG-CIEUC;IEUNG-CHIEUCH;IEUNG-THIEUTH;IEUNG-PHIEUPH;YESIEUNG;CIEUC-IEUNG;CHITUEUMCIEUC",
    "CHITUEUMSSANGCIEUC;CEONGCHIEUMCIEUC;CEONGCHIEUMSSANGCIEUC;CHIEUCH-KHIEUKH;CHIEUCH-HIEUH",
    "CHITUEUMCHIEUCH;CEONGCHIEUMCHIEUCH;PHIEUPH-PIEUP;tj;SSANGHIEUH;YEORINHIEUH;KIYEOK-TIKEUT",
    "NIEUN-SIOS;us;ut;TIKEUT-RIEUL;uf;1:JUNGSEONG uf;A;AE;YA;YAE;EO;E;YEO;YE;O;WA;WAE;OE;YO;U;WEO",
    "WE;WI;YU;EU;YI;I;A-O;A-U;YA-O;YA-YO;EO-O;EO-U;EO-EU;YEO-O;YEO-U;O-EO;O-E;O-YE;O-O;O-U;YO-YA",
    "YO-YAE;YO-YEO;YO-O;YO-I;U-A;U-AE;U-EO-EU;U-YE;U-U;YU-A;YU-EO;YU-E;YU-YEO;YU-YE;YU-U;YU-I;EU-U",
    "EU-EU;YI-U;I-A;I-YA;I-O;I-U;I-EU;I-ARAEA;ARAEA;ARAEA-EO;ARAEA-U;ARAEA-I;SSANGARAEA;A-EU;YA-U",
    "YEO-YA;O-YA;O-YAE;1:JONGSEONG wu;ve;KIYEOK-SIOS;NIEUN;us;ut;xm;RIEUL;sy;uy;uz;xc;wh;wg;ux",
    "MIEUM;PIEUP;xb;SIOS;SSANGSIOS;IEUNG;CIEUC;sm;ss;tg;sx;HIEUH;KIYEOK-RIEUL;KIYEOK-SIOS-KIYEOK",
    "NIEUN-KIYEOK;yx;NIEUN-SIOS;NIEUN-PANSIOS;NIEUN-THIEUTH;TIKEUT-KIYEOK;TIKEUT-RIEUL;zf",
    "RIEUL-NIEUN;zh;RIEUL-TIKEUT-HIEUH;SSANGRIEUL;RIEUL-MIEUM-KIYEOK;RIEUL-MIEUM-SIOS",
    "RIEUL-PIEUP-SIOS;RIEUL-PIEUP-HIEUH;vx;RIEUL-SSANGSIOS;RIEUL-PANSIOS;RIEUL-KHIEUKH;zi",
    "MIEUM-KIYEOK;MIEUM-RIEUL;MIEUM-PIEUP;MIEUM-SIOS;MIEUM-SSANGSIOS;MIEUM-PANSIOS;MIEUM-CHIEUCH",
    "MIEUM-HIEUH;wb;PIEUP-RIEUL;PIEUP-PHIEUPH;PIEUP-HIEUH;wc;SIOS-KIYEOK;SIOS-TIKEUT;SIOS-RIEUL",
    "SIOS-PIEUP;PANSIOS;IEUNG-KIYEOK;IEUNG-SSANGKIYEOK;SSANGIEUNG;IEUNG-KHIEUKH;YESIEUNG",
    "YESIEUNG-SIOS;YESIEUNG-PANSIOS;PHIEUPH-PIEUP;tj;HIEUH-NIEUN;HIEUH-RIEUL;HIEUH-MIEUM",
    "HIEUH-PIEUP;YEORINHIEUH;KIYEOK-NIEUN;KIYEOK-PIEUP;KIYEOK-CHIEUCH;KIYEOK-KHIEUKH;KIYEOK-HIEUH",
    "SSANGNIEUN;0:ETHIOPIC iu HA;HU;HI;HAA;HEE;HE;HO;HOA;LA;LU;LI;LAA;LEE;LE;LO;LWA;HHA;HHU;HHI",
    "HHAA;HHEE;HHE;HHO;HHWA;MA;MU;MI;MAA;MEE;ME;MO;MWA;SZA;SZU;SZI;SZAA;SZEE;SZE;SZO;SZWA;RA;RU;RI",
    "RAA;REE;RE;RO;RWA;SA;SU;SI;SAA;SEE;SE;SO;SWA;kt;SHU;SHI;SHAA;SHEE;vy;SHO;SHWA;QA;QU;QI;QAA",
    "QEE;QE;QO;QOA;QWA;@124A QWI;QWAA;QWEE;QWE;@1250 QHA;QHU;QHI;QHAA;QHEE;QHE;QHO;@1258 QHWA",
    "@125A QHWI;QHWAA;QHWEE;QHWE;@1260 BA;BU;BI;BAA;BEE;BE;BO;BWA;VA;VU;VI;VAA;VEE;VE;VO;VWA;TA;TU",
    "TI;TAA;TEE;TE;TO;TWA;CA;CU;CI;CAA;CEE;CE;CO;CWA;XA;XU;XI;XAA;XEE;XE;XO;XOA;XWA;@128A XWI;XWAA",
    "XWEE;XWE;@1290 NA;NU;NI;NAA;NEE;NE;NO;NWA;lj;NYU;NYI;NYAA;NYEE;NYE;NYO;NYWA;go A;U;I;AA;EE;E",
    "O;WA;2:KA;KU;KI;KAA;KEE;KE;KO;KOA;KWA;@12B2 KWI;KWAA;KWEE;KWE;@12B8 KXA;KXU;KXI;KXAA;KXEE;KXE",
    "KXO;@12C0 KXWA;@12C2 KXWI;KXWAA;KXWEE;KXWE;@12C8 WA;WU;WI;WAA;WEE;WE;WO;WOA;PHARYNGEAL A;U;I",
    "AA;EE;E;O;@12D8 2:ZA;ZU;ZI;ZAA;ZEE;ZE;ZO;ZWA;ZHA;ZHU;ZHI;ZHAA;ZHEE;ZHE;ZHO;ZHWA;YA;YU;YI;YAA",
    "YEE;YE;YO;YOA;DA;DU;DI;DAA;DEE;DE;DO;DWA;ph;DDU;DDI;DDAA;DDEE;DDE;DDO;DDWA;JA;JU;JI;JAA;JEE",
    "JE;JO;JWA;GA;GU;GI;GAA;GEE;GE;GO;GOA;GWA;@1312 GWI;GWAA;GWEE;GWE;@1318 GGA;GGU;GGI;GGAA;GGEE",
    "GGE;GGO;GGWAA;mh;THU;THI;THAA;THEE;ts;THO;THWA;lg;CHU;CHI;CHAA;CHEE;CHE;CHO;CHWA;nx;PHU;PHI",
    "PHAA;PHEE;PHE;PHO;PHWA;zo;TSU;TSI;TSAA;TSEE;TSE;TSO;TSWA;TZA;TZU;TZI;TZAA;TZEE;TZE;TZO;TZOA",
    "FA;FU;FI;FAA;FEE;FE;FO;FWA;PA;PU;PI;PAA;PEE;PE;PO;PWA;RYA;MYA;FYA;@135D 1:dj sp bi cm mp bj",
    "2:cm mp bj;2:sp bj;1:hi bj;1:WORDSPACE;if ge;1:et;jt;iw;PREFACE iw;1:fc bj;1:vp fh;1:cr cs;co",
    "aw;bt;by;fx;bv;br;dm;1:dq jx;fm;jk;od;im;ou;ff;mm;gb;az;jx ba;@1380 1:iu SEBATBEIT MWA;2:MWI",
    "MWEE;MWE;SEBATBEIT BWA;2:BWI;BWEE;BWE;SEBATBEIT FWA;2:FWI;FWEE;FWE;SEBATBEIT PWA;2:PWI;PWEE",
    "PWE;1:TONAL bj YIZET;DERET;RIKRIK;fu RIKRIK;3:DIFAT;KENAT;CHIRET;HIDET;DERET-HIDET;KURT",
    "@13A0 0:CHEROKEE aa A;E;I;O;U;+;GA;KA;GE;GI;GO;GU;+;HA;HE;HI;HO;HU;+;LA;LE;LI;LO;LU;+;MA;ME",
    "MI;MO;MU;NA;HNA;NAH;NE;NI;NO;NU;+;QUA;QUE;QUI;QUO;QUU;+;SA;S;SE;SI;SO;SU;+;DA;TA;DE;TE;DI;TI",
    "DO;DU;+;DLA;TLA;TLE;TLI;TLO;TLU;+;zo;TSE;TSI;TSO;TSU;+;WA;WE;WI;WO;WU;+;YA;YE;YI;YO;YU;+;MV",
    "@13F8 1:ad aa YE;YI;YO;YU;+;MV;@1400 0:CANADIAN SYLLABICS py;E;AAI;I;II;O;OO;qp OO;2:nu EE;I",
    "2:A;AA;WE;bf WE;2:WI;bf WI;2:WII;bf WII;2:WO;bf WO;2:WOO;bf WOO;2:pa WOO;2:WA;bf WA;2:WAA",
    "bf WAA;2:pa WAA;2:AI;qp W;2:go ge;2:ar db;ef;ha dg ei;3:se dg ei;3:ai dg ei;3:ei;al db",
    "fu an STROKES;3:bb cy;3:fu as at;3:cz;di lf;2:EN;IN;ON;AN;PE;PAAI;PI;PII;PO;POO;qp POO",
    "2:nu HEE;HI;2:PA;PAA;PWE;bf PWE;2:PWI;bf PWI;2:PWII;bf PWII;2:PWO;bf PWO;2:PWOO;bf PWOO;2:PWA",
    "bf PWA;2:PWAA;bf PWAA;2:qp PWAA;2:P;bf P;2:nu H;2:TE;TAAI;TI;TII;TO;TOO;qp TOO;2:nu DEE;DI",
    "2:TA;TAA;TWE;bf TWE;2:TWI;bf TWI;2:TWII;bf TWII;2:co;bf co;2:TWOO;bf TWOO;2:TWA;bf TWA;2:TWAA",
    "bf TWAA;2:pa TWAA;2:T;TTE;TTI;TTO;pf;KE;KAAI;KI;KII;KO;KOO;qp KOO;2:KA;KAA;KWE;bf KWE;2:KWI",
    "bf KWI;2:KWII;bf KWII;2:KWO;bf KWO;2:KWOO;bf KWOO;2:KWA;bf KWA;2:KWAA;bf KWAA;2:pa KWAA;2:K",
    "KW;SOUTH-SLAVEY KEH;KIH;KOH;KAH;2:CE;CAAI;CI;CII;CO;COO;qp COO;2:CA;CAA;CWE;bf CWE;2:CWI",
    "bf CWI;2:CWII;bf CWII;2:CWO;bf CWO;2:CWOO;bf CWOO;2:CWA;bf CWA;2:CWAA;bf CWAA;2:pa CWAA;2:C",
    "vc TH;2:ME;MAAI;MI;MII;MO;MOO;qp MOO;2:MA;MAA;MWE;bf MWE;2:MWI;bf MWI;2:MWII;bf MWII;2:MWO",
    "bf MWO;2:MWOO;bf MWOO;2:MWA;bf MWA;2:MWAA;bf MWAA;2:pa MWAA;2:M;bf M;2:MH;ATHAPASCAN M;2:vc M",
    "2:NE;NAAI;NI;NII;NO;NOO;qp NOO;2:NA;NAA;NWE;bf NWE;2:NWA;bf NWA;2:NWAA;bf NWAA;2:pa NWAA;2:N",
    "nu NG;2:NH;LE;LAAI;LI;LII;LO;LOO;qp LOO;2:LA;LAA;LWE;bf LWE;2:LWI;bf LWI;2:LWII;bf LWII;2:LWO",
    "bf LWO;2:LWOO;bf LWOO;2:LWA;bf LWA;2:LWAA;bf LWAA;2:L;bf L;2:cf L;2:SE;SAAI;SI;SII;SO;SOO",
    "qp SOO;2:SA;SAA;SWE;bf SWE;2:SWI;bf SWI;2:SWII;bf SWII;2:SWO;bf SWO;2:SWOO;bf SWOO;2:SWA",
    "bf SWA;2:SWAA;bf SWAA;2:pa SWAA;2:S;ATHAPASCAN S;2:SW;BLACKFOOT S;2:MOOSE-CREE SK;2:pa SKW",
    "S-W;SPWA;STWA;SKWA;SCWA;2:vy;SHI;SHII;SHO;SHOO;kt;SHAA;SHWE;bf SHWE;2:SHWI;bf SHWI;2:SHWII",
    "bf SHWII;2:SHWO;bf SHWO;2:SHWOO;bf SHWOO;2:SHWA;bf SHWA;2:SHWAA;bf SHWAA;2:SH;YE;YAAI;YI;YII",
    "YO;YOO;qp YOO;2:YA;YAA;YWE;bf YWE;2:YWI;bf YWI;2:YWII;bf YWII;2:YWO;bf YWO;2:YWOO;bf YWOO",
    "2:YWA;bf YWA;2:YWAA;bf YWAA;2:pa YWAA;2:Y;BIBLE-CREE Y;2:bf Y;2:vc YI;2:RE;R-CREE RE;2:bf LE",
    "2:RAAI;RI;RII;RO;ROO;bf LO;2:RA;RAA;bf LA;2:RWAA;bf RWAA;2:R;bf R;2:cf R;2:FE;FAAI;FI;FII;FO",
    "FOO;FA;FAA;FWAA;bf FWAA;2:F;ts;N-CREE ts;2:THI;N-CREE THI;2:THII;N-CREE THII;2:THO;THOO;mh",
    "THAA;THWAA;bf THWAA;2:TH;TTHE;TTHI;TTHO;jv;TTH;TYE;TYI;TYO;TYA;NUNAVIK HE;HI;HII;HO;HOO;HA",
    "HAA;H;2:NUNAVUT H;2:HK;QAAI;QI;QII;QO;QOO;QA;QAA;Q;TLHE;TLHI;TLHO;TLHA;bf RE;RI;RO;RA;2:NGAAI",
    "NGI;NGII;NGO;NGOO;kp;NGAA;NG;NNG;vc vy;SHI;SHO;kt;2:WOODS-CREE ts;THI;THO;mh;TH;2:LHI;LHII",
    "LHO;LHOO;LHA;LHAA;LH;TH-CREE ts;THI;THII;THO;THOO;mh;THAA;TH;2:AIVILIK B;2:BLACKFOOT E;I;O;A",
    "WE;WI;WO;WA;NE;NI;NO;NA;KE;KI;KO;KA;2:vc HE;HI;HO;HA;2:nu GHU;GHO;GHE;GHEE;GHI;qq;RU;RO;RE",
    "REE;RI;RA;WU;WO;WE;WEE;WI;WA;HWU;HWO;HWE;HWEE;HWI;HWA;THU;THO;ts;THEE;THI;mh;TTU;TTO;TTE;TTEE",
    "TTI;pf;PU;PO;PE;PEE;PI;PA;P;GU;GO;GE;GEE;GI;GA;KHU;KHO;KHE;KHEE;KHI;lo;KKU;KKO;KKE;KKEE;KKI",
    "KKA;KK;NU;NO;NE;NEE;NI;NA;MU;MO;ME;MEE;MI;MA;YU;YO;YE;YEE;YI;YA;JU;2:vc JU;2:nu JO;JE;JEE;JI",
    "2:vc JI;2:nu JA;JJU;JJO;JJE;JJEE;JJI;JJA;LU;LO;LE;LEE;LI;LA;DLU;DLO;DLE;DLEE;DLI;DLA;LHU;LHO",
    "LHE;LHEE;LHI;LHA;TLHU;TLHO;TLHE;TLHEE;TLHI;TLHA;TLU;TLO;TLE;TLEE;TLI;TLA;ZU;ZO;ZE;ZEE;ZI;ZA;Z",
    "ap Z;3:DZU;DZO;DZE;DZEE;DZI;DZA;SU;SO;SE;SEE;SI;SA;SHU;SHO;vy;SHEE;SHI;kt;SH;TSU;TSO;TSE;TSEE",
    "TSI;zo;CHU;CHO;CHE;CHEE;CHI;lg;TTSU;TTSO;TTSE;TTSEE;TTSI;TTSA;2:CHI ak;2:if ge;2:QAI;NGAI",
    "NNGI;NNGII;NNGO;NNGOO;NNGA;NNGAA;WOODS-CREE THWEE;THWI;THWII;THWO;THWOO;THWA;THWAA;ar TH",
    "2:BLACKFOOT W;0:OGHAM ll bj;1:aa BEITH;LUIS;FEARN;SAIL;NION;UATH;DAIR;TINNE;COLL;CEIRT;MUIN",
    "GORT;NGEADAL;STRAIF;RUIS;AILM;ONN;UR;EADHADH;IODHADH;EABHADH;OR;UILLEANN;IFIN;EAMHANCHOLL",
    "PEITH;1:FEATHER bj;1:bq FEATHER bj;@16A0 0:RUNIC aa FEHU FEOH FE F;2:V;URUZ UR U;2:YR;Y;W",
    "THURISAZ THURS THORN;2:ETH;ANSUZ A;2:OS O;2:AC A;2:AESC;LONG-BRANCH-OSS O;2:SHORT-TWIG-OSS O",
    "2:O;OE;ON;RAIDO RAD REID R;2:KAUNA;CEN;KAUN K;2:G;ENG;GEBO GYFU G;2:GAR;WUNJO WYNN W",
    "2:HAGLAZ H;2:HAEGL H;2:LONG-BRANCH-HAGALL H;2:SHORT-TWIG-HAGALL H;2:NAUDIZ NYD NAUD N",
    "2:SHORT-TWIG-NAUD N;2:DOTTED-N;ISAZ IS ISS I;2:E;JERAN J;2:GER;LONG-BRANCH-AR AE",
    "2:SHORT-TWIG-AR A;2:IWAZ EOH;2:PERTHO PEORTH P;2:ALGIZ EOLHX;2:SOWILO S",
    "2:SIGEL LONG-BRANCH-SOL S;2:SHORT-TWIG-SOL S;2:C;Z;TIWAZ TIR TYR T;2:SHORT-TWIG-TYR T;2:D",
    "BERKANAN BEORC BJARKAN B;2:SHORT-TWIG-BJARKAN B;2:DOTTED-P;OPEN-P;EHWAZ EH E;2:MANNAZ MAN M",
    "2:LONG-BRANCH-MADR M;2:SHORT-TWIG-MADR M;2:LAUKAZ LAGU LOGR L;2:DOTTED-L;INGWAZ;ING",
    "DAGAZ DAEG D;2:OTHALAN ETHEL O;2:EAR;IOR;CWEORTH;CALC;CEALC;STAN;LONG-BRANCH-YR;SHORT-TWIG-YR",
    "ICELANDIC-YR;Q;X;1:de cc;1:kd cc;1:gr cc;1:ARLAUG au;1:TVIMADUR au;1:BELGTHOR au;1:aa K;SH;OO",
    "FRANKS CASKET OS;IS;EH;AC;AESC;@1700 0:TAGALOG aa A;I;U;KA;GA;kp;TA;DA;NA;PA;BA;MA;YA;RA;LA",
    "WA;SA;HA;1:cm ak I;U;1:ak fn;PAMUDPOD;@171F 1:aa iv RA;0:HANUNOO aa A;I;U;KA;GA;kp;TA;DA;NA",
    "PA;BA;MA;YA;RA;LA;WA;SA;HA;1:cm ak I;U;1:ak PAMUDPOD;0:PHILIPPINE de cc;1:al cc",
    "@1740 0:BUHID aa A;I;U;KA;GA;kp;TA;DA;NA;PA;BA;MA;YA;RA;LA;WA;SA;HA;1:cm ak I;U",
    "@1760 0:TAGBANWA aa A;I;U;KA;GA;kp;TA;DA;NA;PA;BA;MA;YA;@176E LA;WA;SA;@1772 1:cm ak I;U",
    "@1780 0:KHMER aa KA;lo;KO;KHO;NGO;CA;lg;CO;CHO;NYO;DA;jv;DO;TTHO;NNO;TA;mh;TO;THO;NO;BA;nx;PO",
    "PHO;MO;YO;RO;LO;VO;kt;SSO;SA;HA;LA;QA;1:kw cm QAQ;QAA;QI;QII;QU;QUK;QUU;QUUV;RY;RYY;LY;LYY;QE",
    "QAI;QOO TYPE cs;co;3:QAU;1:cm INHERENT AQ;AA;2:ak AA;I;II;Y;YY;U;UU;UA;OE;YA;IE;E;AE;AI;OO;AU",
    "1:ak NIKAHIT;REAHMUK;YUUKALEAPINTU;MUUSIKATOAN;TRIISAP;BANTOC;ROBAT;TOANDAKHIAT;KAKABAT;AHSDA",
    "SAMYOK SANNYA;2:VIRIAM;COENG;BATHAMASAT;KHAN;BARIYOOSAN;CAMNUC PII KUUH;2:LEK TOO;2:BEYYAL",
    "PHNAEK MUAN;2:KOOMUUT;1:xz au RIEL;1:ak AVAKRAHASANYA;ATTHACAN;@17E0 1:cr ex;cs;co;aw;bt;by",
    "fx;bv;br;dm;@17F0 1:au LEK ATTAK SON;MUOY;PII;BEI;BUON;PRAM;PRAM-MUOY;PRAM-PII;PRAM-BEI",
    "PRAM-BUON;@1800 0:MONGOLIAN xs;ps;et;if ge;1:iw;bt du;1:TODO SOFT py;1:SIBE iu BOUNDARY wy",
    "1:MANCHU et;if ge;1:NIRUGU;FREE vu SELECTOR cs;co;aw;1:cm fh;1:FREE vu SELECTOR bt;1:cr ex;cs",
    "co;aw;bt;by;fx;bv;br;dm;@1820 1:aa A;E;I;O;U;OE;UE;EE;NA;ANG;BA;PA;QA;GA;MA;LA;SA;kt;TA;DA;lg",
    "JA;YA;RA;WA;FA;KA;lo;zo;ZA;HAA;ZRA;LHA;ZHI;CHI;TODO fl cm ak;3:E;I;O;U;OE;UE;ANG;BA;PA;QA;GA",
    "MA;TA;DA;lg;JA;zo;YA;WA;KA;GAA;HAA;JIA;NIA;DZA;2:SIBE E;I;IY;UE;U;ANG;KA;GA;HA;PA;kt;TA;DA;JA",
    "FA;GAA;HAA;zo;ZA;RAA;lg;ZHA;2:MANCHU I;KA;RA;FA;ZHA;2:lg ab co du;@1880 2:ALI GALI ct cs",
    "4:ew cs;4:DAMARU;UBADAMA;ca UBADAMA;4:BALUDA;aw BALUDA;4:A;I;KA;kp;CA;pf;jv;ph;qz;TA;DA;PA;nx",
    "td;ZHA;ZA;AH;2:TODO ALI GALI TA;ZHA;2:MANCHU ALI GALI qq;kp;CA;ul;pf;ka;TA;po;td;CYA;ZHA;ZA",
    "2:ALI GALI dg U;YA;2:MANCHU ALI GALI re;2:ALI GALI DAGALGA;2:MANCHU ALI GALI LHA",
    "@18B0 0:CANADIAN SYLLABICS OY;AY;AAY;WAY;POY;PAY;PWOY;TAY;KAY;KWAY;MAY;NOY;NAY;LAY;SOY;SAY",
    "SHOY;SHAY;SHWOY;YOY;YAY;RAY;NWI;OJIBWAY NWI;2:NWII;OJIBWAY NWII;2:NWO;OJIBWAY NWO;2:NWOO",
    "OJIBWAY NWOO;2:RWEE;RWI;RWII;RWO;RWOO;RWA;OJIBWAY P;T;K;C;M;+;S;SH;2:EASTERN W;2:WESTERN W",
    "2:ar ad ei;3:ig cy;2:R-CREE RWE;2:bf LOO;LAA;2:THWE;THWA;TTHWE;TTHOO;TTHAA;TLHWE;TLHOO",
    "vc SHWE;SHOO;HOO;2:nu GWU;DENE GEE;3:GAA;GWA;2:vc JUU;2:nu JWA;2:BEAVER DENE L;R",
    "2:nu DENTAL S;@1900 0:LIMBU VOWEL-CARRIER aa;1:aa KA;lo;GA;qq;kp;CA;lg;JA;ul;YAN;TA;mh;DA;po",
    "NA;PA;nx;BA;re;MA;YA;RA;LA;WA;kt;td;SA;HA;GYAN;TRA;@1920 1:cm ak A;I;U;EE;AI;OO;AU;E;O",
    "1:sd aa YA;RA;WA;@1930 1:ad aa KA;kp;ct;TA;NA;PA;MA;RA;LA;1:ak MUKPHRENG;KEMPHRENG;SA-I",
    "@1940 LOO;@1944 1:dw bj;1:fc bj;1:cr ex;cs;co;aw;bt;by;fx;bv;br;dm;0:TAI LE aa KA;XA;kp;zo;SA",
    "YA;TA;mh;LA;PA;nx;MA;FA;VA;HA;QA;lo;zp;NA;A;I;EE;EH;U;OO;O;UE;E;AUE;AI;@1970 TONE-2;+4",
    "@1980 0:NEW TAI LUE aa ga QA;4:is QA;4:ga KA;XA;kp;4:is KA;XA;kp;4:ga zo;SA;YA;4:is zo;SA;YA",
    "4:ga TA;mh;NA;4:is TA;mh;NA;4:ga PA;nx;MA;4:is PA;nx;MA;4:ga FA;VA;LA;4:is FA;VA;LA;4:ga HA",
    "DA;BA;4:is HA;DA;BA;4:ga KVA;XVA;4:is KVA;XVA;4:ga SUA;4:is SUA;@19B0 3:cm ak cm SHORTENER",
    "5:AA;II;U;UU;E;AE;O;OA;UE;AY;AAY;UY;OY;OAY;UEY;IY;3:aa ar V;NG;N;M;K;D;B;3:fi MARK-1;+",
    "@19D0 3:cr ex;cs;co;aw;bt;by;fx;bv;br;dm;3:THAM cr cs;@19DE 3:ak LAE;LAEV",
    "0:KHMER au PATHAMASAT;MUOY ys;2:PII ys;2:BEI ys;2:BUON ys;2:PRAM ys;2:PRAM-MUOY ys",
    "2:PRAM-PII ys;2:PRAM-BEI ys;2:PRAM-BUON ys;2:DAP ys;2:DAP-MUOY ys;2:DAP-PII ys;2:DAP-BEI ys",
    "2:DAP-BUON ys;2:DAP-PRAM ys;2:TUTEYASAT;MUOY ROC;2:PII ROC;2:BEI ROC;2:BUON ROC;2:PRAM ROC",
    "2:PRAM-MUOY ROC;2:PRAM-PII ROC;2:PRAM-BEI ROC;2:PRAM-BUON ROC;2:DAP ROC;2:DAP-MUOY ROC",
    "2:DAP-PII ROC;2:DAP-BEI ROC;2:DAP-BUON ROC;2:DAP-PRAM ROC;0:BUGINESE aa KA;GA;kp;NGKA;PA;BA",
    "MA;MPA;TA;DA;NA;NRA;CA;JA;lj;NYCA;YA;RA;LA;VA;SA;A;HA;1:cm ak I;U;E;O;AE;@1A1E 1:PALLAWA",
    "yf OF hi;0:TAI THAM aa ga KA;lo;KXA;3:is KA;KXA;lo;3:kp;ga CA;lg;3:is CA;SA;lg;3:lj;RATA",
    "ga RATHA;3:DA;is RATHA;3:RANA;ga TA;mh;3:is TA;mh;3:NA;BA;ga PA;nx;FA;3:is PA;FA;nx;3:MA",
    "is YA;3:ga YA;3:RA;RUE;LA;LUE;WA;ga kt;td;SA;HA;3:LLA;A;is HA;3:I;II;U;UU;EE;OO;LAE;GREAT SA",
    "2:fq ak cf RA;LA;4:LA TANG LAI;2:ak MAI KANG LAI;2:fq ak ar kp;4:is PA;4:ga RATHA OR is PA",
    "4:MA;BA;SA;@1A60 2:ak SAKOT;2:cm ak A;MAI SAT;4:AA;TALL AA;4:I;II;UE;UUE;U;UU;O;OA aq;4:OY;E",
    "AE;OO;AI;THAM AI;4:OA aj;2:ak MAI KANG;3:TONE-1;+;KHUEN TONE-3;+2;3:RA HAAM;3:MAI SAM",
    "3:KHUEN-LUE KARAN;@1A7F 2:dj il cy;2:HORA cr ex;cs;co;aw;bt;by;fx;bv;br;dm;@1A90 2:THAM cr ex",
    "cs;co;aw;bt;by;fx;bv;br;dm;@1AA0 2:ak WIANG;WIANGWAAK;SAWAN;KEOW;HOY;DOKMAI;bq cp RANA",
    "3:MAI YAMOK;3:KAAN;KAANKUU;SATKAAN;SATKAANKUU;HANG;CAANG;@1AB0 0:dj DOUBLED be fs",
    "1:DIAERESIS-RING;uk;ay ae;1:es cy;1:X-X aq;1:WIGGLY gw aq;1:fg bj aq;1:al fg bj aq",
    "1:cl pm at aq;1:STRONG pm at aq;1:PARENTHESES aj;1:al PARENTHESES aj;1:PARENTHESES aq;ho",
    "1:ft ad aa W aq;4:ch W aq;1:av cd aj av;1:ai cd aj ai;1:av cd aq av;1:ai cd aq ai",
    "1:bn BRACKETS aj;1:dq ak aj;1:ca al ARCH aj;1:cz ak aj;1:al cz ak aj;aq;1:es db fs",
    "1:ft ad aa jd G;R;T;@1B00 0:BALINESE ak ULU RICEM;mj;2:CECEK;SURANG;BISAH;1:aa AKARA;3:qn",
    "2:IKARA;3:qn;2:UKARA;3:qn;2:RA REPA;4:qn;2:LA LENGA;4:qn;2:EKARA;AIKARA;OKARA;3:qn;2:KA;3:nk",
    "2:GA;3:GORA;2:kp;CA;3:LACA;2:JA;3:JERA;2:lj;TA LATIK;wd nk;2:DA wd ALPAPRANA;nk;2:NA RAMBAT",
    "2:TA;3:TAWA;2:DA;3:MADU;2:NA;PA;3:KAPAL;2:BA;3:KEMBANG;2:MA;YA;RA;LA;WA;SA SAGA;SAPA;2:SA;HA",
    "1:ak REREKAN;1:cm ak qn;ULU;4:SARI;3:SUKU;4:ILUT;3:RA REPA;5:qn;3:LA LENGA;5:qn;3:TALING",
    "4:REPA;qn;REPA qn;3:PEPET;4:qn;1:ADEG ADEG;1:aa yp SASAK;2:KHOT SASAK;2:TZIR SASAK;2:EF SASAK",
    "2:VE SASAK;2:ZAL SASAK;2:ASYURA SASAK;2:iv JNYA;@1B50 1:cr ex;cs;co;aw;bt;by;fx;bv;br;dm",
    "1:PANTI;PAMADA;WINDU;CARIK PAMUNGKAH;SIKI;PAREREN;1:PAMENENG;mr au DONG;DENG;DUNG;DANG",
    "4:SURANG;3:DING;DAENG;DEUNG;DAING;DANG GEDE;3:dj TEGEH;ENDEP;KEMPUL;KEMPLI;JEGOGAN",
    "KEMPUL ab JEGOGAN;4:KEMPLI ab JEGOGAN;4:BENDE;GONG;3:RIGHT-HAND fg DUG;DAG;4:gl TUK;TAK",
    "3:LEFT-HAND fg PANG;PUNG;4:gl PLAK;PLUK;4:fg PING;1:PANTI LANTANG;1:PAMADA LANTANG",
    "@1B80 0:SUNDANESE ak PANYECEK;PANGLAYAR;PANGWISAD;1:aa A;I;U;AE;O;E;EU;KA;QA;GA;kp;CA;JA;ZA",
    "lj;TA;DA;NA;PA;FA;VA;BA;MA;YA;RA;LA;WA;SA;XA;HA;1:fq ak PAMINGKAL;PANYAKRA;PANYIKU",
    "1:cm ak PANGHULU;PANYUKU;PANAELAENG;PANOLONG;PAMEPET;PANEULEUNG;1:ak PAMAAEH;fn",
    "1:fq ak PASANGAN MA;WA;1:aa lo;SYA;1:cr ex;cs;co;aw;bt;by;fx;bv;br;dm;1:io;aa REU;LEU;re;ar K",
    "M;0:BATAK aa A;jj A;2:HA;jj HA;2:MANDAILING HA;2:BA;KARO BA;2:PA;jj PA;2:NA;MANDAILING NA",
    "2:WA;jj WA;2:PAKPAK WA;2:GA;jj GA;2:JA;DA;RA;jj RA;2:MA;jj MA;2:SOUTHERN TA;2:NORTHERN TA",
    "2:SA;jj SA;2:MANDAILING SA;2:YA;jj YA;2:kp;LA;jj LA;2:lj;CA;NDA;MBA;I;U;1:ak TOMPI;1:cm ak E",
    "PAKPAK E;3:EE;I;KARO I;3:O;KARO O;3:U;4:tp jj SA;1:fq ak NG;H;1:PANGOLAT;PANONGONAN",
    "@1BFC au BINDU NA METEK;3:PINARBORAS;JUDUL;PANGOLAT;0:LEPCHA aa KA;KLA;lo;GA;GLA;kp;CA;lg;JA",
    "lj;TA;mh;DA;NA;PA;PLA;nx;FA;FLA;BA;BLA;MA;MLA;zo;zp;DZA;YA;RA;LA;HA;HLA;VA;SA;kt;WA;A",
    "1:sd aa YA;RA;1:cm ak AA;I;O;OO;U;UU;E;1:fq ak K;M;L;N;P;R;T;NYIN-DO;KANG;1:ak RAN;kq",
    "@1C3B 1:cc TA-ROL;NYET THYOOM TA-ROL;2:CER-WA;TSHOOK CER-WA;2:TSHOOK;1:cr ex;cs;co;aw;bt;by",
    "fx;bv;br;dm;@1C4D 1:aa pf;jv;ph;0:OL CHIKI cr ex;cs;co;aw;bt;by;fx;bv;br;dm;2:aa LA;AT;AG;ANG",
    "AL;LAA;AAK;AAJ;AAM;AAW;LI;IS;IH;INY;IR;LU;UC;+;UNN;UY;LE;EP;EDD;EN;ERR;LO;OTT;OB;OV;OH",
    "2:MU TTUDDAG;2:GAAHLAA TTUDDAAG;2:MU-GAAHLAA TTUDDAAG;2:RELAA;PHAARKAA;AHAD;cc MUCAAD",
    "al MUCAAD;0:jr ad aa pc VE;3:LONG-LEGGED DE;3:NARROW O;3:WIDE ES;3:TALL TE;3:THREE-LEGGED TE",
    "3:TALL HARD ak;4:YAT;3:UNBLENDED UK;@1C90 0:yj MTAVRULI ac aa AN;BAN;GAN;DON;EN;VIN;ZEN;TAN",
    "IN;KAN;LAS;MAN;NAR;ON;PAR;ZHAR;RAE;SAN;TAR;UN;PHAR;KHAR;GHAN;QAR;mw;CHIN;CAN;JIL;CIL;CHAR;XAN",
    "JHAN;HAE;HE;HIE;WE;HAR;HOE;FI;YN;ELIFI;ch GAN;4:vz;@1CBD AEN;HARD ak;4:LABIAL ak",
    "0:SUNDANESE cc BINDU SURYA;PANGLONG;PURNAMA;CAKRA;LEU SATANGA;3:KA SATANGA;3:DA SATANGA",
    "3:BA SATANGA;@1CD0 0:VEDIC fi KARSHANA;SHARA;PRENKHA;1:ak NIHSHVASA;YAJURVEDIC MIDLINE pe",
    "1:fi YAJURVEDIC AGGRAVATED kw pe;3:kw pe;3:KATHAKA kw pe;2:mj aq",
    "2:YAJURVEDIC KATHAKA kw pe SCHROEDER;2:al pe;2:es pe;2:KATHAKA xp;2:cy aq;2:co du aq",
    "2:aw du aq;2:RIGVEDIC KASHMIRI kw pe;2:ATHARVAVEDIC kw pe;1:ak ew pe;UDATTA;2:bq ew UDATTA",
    "2:ew xp;2:bq ew xp;2:ew UDATTA ab hw;3:xp ab hw;2:ct ANTARGOMUKHA;BAHIRGOMUKHA;VAMAGOMUKHA",
    "4:ab hw;2:TIRYAK;HEXIFORM fl ct;2:fl ct;2:RTHANG fl ct;2:ct UBHAYATO MUKHA;2:ARDHAVISARGA",
    "cp ARDHAVISARGA;1:fi mj aj;1:ak oe;om;ATIKRAMA;1:fi ei aj;2:al ei aj;1:ak al ct ANTARGOMUKHA",
    "@1D00 0:ft aa ad ac A;AE;1:ad aa ch AE;1:aa ad ac sh B;4:C;+;ETH;E;1:ad aa ch fg E;4:I",
    "1:aa ad ac J;+;L ab at;4:M;bq N;4:O;fg O;1:ad aa ok O;fg O;4:O ab at;3:ch OE;1:aa ad ac OU",
    "1:ad aa se dg O;3:ha dg O;1:aa ad ac P;bq R;4:ch R;4:T;+;1:ad aa ok U;DIAERESIZED U;4:ch M",
    "1:aa ad ac V;+;Z;EZH;2:th LARYNGEAL SPIRANT;2:vz;0:kn aa ad ac lh;ry;PI;RHO;PSI",
    "0:jr aa ad ac EL;0:ev aa ac A;AE;B;sh B;3:D;+;bq E;3:G;+7;bq N;3:O;OU;P;R;T;+;W;2:ad A;ch A",
    "3:ik;ch AE;3:B;D;+;zk;fg E;3:ch fg E;3:G;ch I;3:K;M;ENG;O;fg O;3:se dg O;3:ha dg O;3:P;T;+",
    "ok U;3:ch M;3:V;vz;to;kn lh;3:mk;kn PHI;3:CHI;0:ft pj ad aa I;R;U;+;0:kn pj ad aa to;lh;RHO",
    "PHI;CHI;0:ft ad aa UE;B ab bb cq;3:D ab bb cq;3:F ab bb cq;3:M ab bb cq;3:N ab bb cq",
    "3:P ab bb cq;3:R ab bb cq;5:ru bi bb cq;3:S ab bb cq;3:T ab bb cq;3:Z ab bb cq;3:ch G",
    "0:ev aa jr EN;0:ft ad aa jd G;3:TH ab STRIKETHROUGH;2:ac aa I ab at;2:aa mg ab at;3:P ab at",
    "2:ac aa U ab at;2:aa gp ab at;3:B ab gh bw;3:D ab gh bw;3:F ab gh bw;3:G ab gh bw",
    "3:K ab gh bw;3:L ab gh bw;3:M ab gh bw;3:N ab gh bw;3:P ab gh bw;3:R ab gh bw;3:S ab gh bw",
    "3:ESH ab gh bw;3:V ab gh bw;3:X ab gh bw;3:Z ab gh bw;3:A ab cx bw;3:ik ab cx bw",
    "3:D ab bw bi hw;3:E ab cx bw;3:fg E ab cx bw;3:bq fg E ab cx bw;3:zk ab cx bw;3:I ab cx bw",
    "3:fg O ab cx bw;3:ESH ab cx bw;3:U ab cx bw;3:EZH ab cx bw;0:ev aa ad ch ik;3:C;4:ab rf;3:ETH",
    "bq fg E;3:F;la J ab at;3:it G;3:ch H;3:I ab at;3:mg;ac I;5:ab at;3:J ab jb;3:L ab cx bw",
    "5:gh bw;3:ac L;3:M ab bw;3:ch M ab fl LEG;3:N ab av bw;5:cx bw;3:ac N;3:sh O;3:PHI;S ab bw",
    "3:ESH;T ab gh bw;3:U gf;3:gp;ac U;3:V ab bw;3:ch V;3:Z;4:ab cx bw;5:rf;3:EZH;ks;0:dj fy ef fs",
    "2:db fs;1:SNAKE aq;1:SUSPENSION bj;1:MACRON-ACUTE;GRAVE-MACRON;MACRON-GRAVE;ACUTE-MACRON",
    "GRAVE-ACUTE-GRAVE;ACUTE-GRAVE-ACUTE;ft ad aa R aq;1:BREVE-MACRON;MACRON-BREVE;al be aj",
    "1:mu aj;1:xn aq;1:IS aq;1:UR aj;1:US aj;1:ft ad aa FLATTENED fg A aj;4:AE;AO;AV;C gg;4:jd D",
    "4:ETH;G;2:aa ad ac G;2:ad aa K;+;2:aa ad ac L;+;2:ad aa N;2:aa ad ac N;R;2:ad aa R ROTUNDA",
    "4:S;fl S;4:Z;ik;B;to;zk;F;L ab al bb cq;4:O ab cl pm at;4:P;ESH;U ab cl pm at;4:W;A ab bk",
    "4:O ab bk;4:U ab bk;1:UP lf aj;1:KAVYKA aj ai;av;1:cy aj av;1:WIDE ca BRIDGE aq;1:cy aq av",
    "1:DELETION bj;1:al ca fd aq;1:lt cj TO aq;1:av bm aj;1:ai bm bi di bm aq",
    "0:ft ac aa A ab ei aq;1:ad aa A ab ei aq;1:ac aa B ab cy aj;1:ad aa B ab cy aj",
    "1:ac aa B ab cy aq;1:ad aa B ab cy aq;1:ac aa B ab gw aq;1:ad aa B ab gw aq",
    "1:ac aa C ab gg bi db;1:ad aa C ab gg bi db;1:ac aa D ab cy aj;1:ad aa D ab cy aj",
    "1:ac aa D ab cy aq;1:ad aa D ab cy aq;1:ac aa D ab gw aq;1:ad aa D ab gw aq;1:ac aa D ab gg",
    "1:ad aa D ab gg;1:ac aa D ab be aq;1:ad aa D ab be aq;1:ac aa E ab dp bi ef",
    "1:ad aa E ab dp bi ef;1:ac aa E ab dp bi db;1:ad aa E ab dp bi db;1:ac aa E ab be aq",
    "1:ad aa E ab be aq;1:ac aa E ab cq aq;1:ad aa E ab cq aq;1:ac aa E ab gg bi fd",
    "1:ad aa E ab gg bi fd;1:ac aa F ab cy aj;1:ad aa F ab cy aj;1:ac aa G ab dp;1:ad aa G ab dp",
    "1:ac aa H ab cy aj;1:ad aa H ab cy aj;1:ac aa H ab cy aq;1:ad aa H ab cy aq;1:ac aa H ab bk",
    "1:ad aa H ab bk;1:ac aa H ab gg;1:ad aa H ab gg;1:ac aa H ab fd aq;1:ad aa H ab fd aq",
    "1:ac aa I ab cq aq;1:ad aa I ab cq aq;1:ac aa I ab bk bi db;1:ad aa I ab bk bi db",
    "1:ac aa K ab db;1:ad aa K ab db;1:ac aa K ab cy aq;1:ad aa K ab cy aq;1:ac aa K ab gw aq",
    "1:ad aa K ab gw aq;1:ac aa L ab cy aq;1:ad aa L ab cy aq;1:ac aa L ab cy aq bi dp",
    "1:ad aa L ab cy aq bi dp;1:ac aa L ab gw aq;1:ad aa L ab gw aq;1:ac aa L ab be aq",
    "1:ad aa L ab be aq;1:ac aa M ab db;1:ad aa M ab db;1:ac aa M ab cy aj;1:ad aa M ab cy aj",
    "1:ac aa M ab cy aq;1:ad aa M ab cy aq;1:ac aa N ab cy aj;1:ad aa N ab cy aj",
    "1:ac aa N ab cy aq;1:ad aa N ab cy aq;1:ac aa N ab gw aq;1:ad aa N ab gw aq",
    "1:ac aa N ab be aq;1:ad aa N ab be aq;1:ac aa O ab cq bi db;1:ad aa O ab cq bi db",
    "1:ac aa O ab cq bi bk;1:ad aa O ab cq bi bk;1:ac aa O ab dp bi ef;1:ad aa O ab dp bi ef",
    "1:ac aa O ab dp bi db;1:ad aa O ab dp bi db;1:ac aa P ab db;1:ad aa P ab db",
    "1:ac aa P ab cy aj;1:ad aa P ab cy aj;1:ac aa R ab cy aj;1:ad aa R ab cy aj",
    "1:ac aa R ab cy aq;1:ad aa R ab cy aq;1:ac aa R ab cy aq bi dp;1:ad aa R ab cy aq bi dp",
    "1:ac aa R ab gw aq;1:ad aa R ab gw aq;1:ac aa S ab cy aj;1:ad aa S ab cy aj",
    "1:ac aa S ab cy aq;1:ad aa S ab cy aq;1:ac aa S ab db bi cy aj;1:ad aa S ab db bi cy aj",
    "1:ac aa S ab gs bi cy aj;1:ad aa S ab gs bi cy aj;1:ac aa S ab cy aq bi cy aj",
    "1:ad aa S ab cy aq bi cy aj;1:ac aa T ab cy aj;1:ad aa T ab cy aj;1:ac aa T ab cy aq",
    "1:ad aa T ab cy aq;1:ac aa T ab gw aq;1:ad aa T ab gw aq;1:ac aa T ab be aq",
    "1:ad aa T ab be aq;1:ac aa U ab bk aq;1:ad aa U ab bk aq;1:ac aa U ab cq aq",
    "1:ad aa U ab cq aq;1:ac aa U ab be aq;1:ad aa U ab be aq;1:ac aa U ab cq bi db",
    "1:ad aa U ab cq bi db;1:ac aa U ab dp bi bk;1:ad aa U ab dp bi bk;1:ac aa V ab cq",
    "1:ad aa V ab cq;1:ac aa V ab cy aq;1:ad aa V ab cy aq;1:ac aa W ab ef;1:ad aa W ab ef",
    "1:ac aa W ab db;1:ad aa W ab db;1:ac aa W ab bk;1:ad aa W ab bk;1:ac aa W ab cy aj",
    "1:ad aa W ab cy aj;1:ac aa W ab cy aq;1:ad aa W ab cy aq;1:ac aa X ab cy aj",
    "1:ad aa X ab cy aj;1:ac aa X ab bk;1:ad aa X ab bk;1:ac aa Y ab cy aj;1:ad aa Y ab cy aj",
    "1:ac aa Z ab be;1:ad aa Z ab be;1:ac aa Z ab cy aq;1:ad aa Z ab cy aq;1:ac aa Z ab gw aq",
    "1:ad aa Z ab gw aq;3:H ab gw aq;3:T ab bk;3:W ab ei aj;3:Y ab ei aj;3:A ab ai dg ei",
    "3:fl S ab cy aj;6:dl at;6:ga at;1:ac aa SHARP S;1:ad aa mk;1:ac aa A ab cy aq",
    "1:ad aa A ab cy aq;1:ac aa A ab bw aj;1:ad aa A ab bw aj;1:ac aa A ab be bi db",
    "1:ad aa A ab be bi db;1:ac aa A ab be bi ef;1:ad aa A ab be bi ef;1:ac aa A ab be bi bw aj",
    "1:ad aa A ab be bi bw aj;1:ac aa A ab be bi cq;1:ad aa A ab be bi cq;1:ac aa A ab be bi cy aq",
    "1:ad aa A ab be bi cy aq;1:ac aa A ab fd bi db;1:ad aa A ab fd bi db;1:ac aa A ab fd bi ef",
    "1:ad aa A ab fd bi ef;1:ac aa A ab fd bi bw aj;1:ad aa A ab fd bi bw aj;1:ac aa A ab fd bi cq",
    "1:ad aa A ab fd bi cq;1:ac aa A ab fd bi cy aq;1:ad aa A ab fd bi cy aq;1:ac aa E ab cy aq",
    "1:ad aa E ab cy aq;1:ac aa E ab bw aj;1:ad aa E ab bw aj;1:ac aa E ab cq;1:ad aa E ab cq",
    "1:ac aa E ab be bi db;1:ad aa E ab be bi db;1:ac aa E ab be bi ef;1:ad aa E ab be bi ef",
    "1:ac aa E ab be bi bw aj;1:ad aa E ab be bi bw aj;1:ac aa E ab be bi cq;1:ad aa E ab be bi cq",
    "1:ac aa E ab be bi cy aq;1:ad aa E ab be bi cy aq;1:ac aa I ab bw aj;1:ad aa I ab bw aj",
    "1:ac aa I ab cy aq;1:ad aa I ab cy aq;1:ac aa O ab cy aq;1:ad aa O ab cy aq",
    "1:ac aa O ab bw aj;1:ad aa O ab bw aj;1:ac aa O ab be bi db;1:ad aa O ab be bi db",
    "1:ac aa O ab be bi ef;1:ad aa O ab be bi ef;1:ac aa O ab be bi bw aj;1:ad aa O ab be bi bw aj",
    "1:ac aa O ab be bi cq;1:ad aa O ab be bi cq;1:ac aa O ab be bi cy aq;1:ad aa O ab be bi cy aq",
    "1:ac aa O ab le bi db;1:ad aa O ab le bi db;1:ac aa O ab le bi ef;1:ad aa O ab le bi ef",
    "1:ac aa O ab le bi bw aj;1:ad aa O ab le bi bw aj;1:ac aa O ab le bi cq;1:ad aa O ab le bi cq",
    "1:ac aa O ab le bi cy aq;1:ad aa O ab le bi cy aq;1:ac aa U ab cy aq;1:ad aa U ab cy aq",
    "1:ac aa U ab bw aj;1:ad aa U ab bw aj;1:ac aa U ab le bi db;1:ad aa U ab le bi db",
    "1:ac aa U ab le bi ef;1:ad aa U ab le bi ef;1:ac aa U ab le bi bw aj;1:ad aa U ab le bi bw aj",
    "1:ac aa U ab le bi cq;1:ad aa U ab le bi cq;1:ac aa U ab le bi cy aq;1:ad aa U ab le bi cy aq",
    "1:ac aa Y ab ef;1:ad aa Y ab ef;1:ac aa Y ab cy aq;1:ad aa Y ab cy aq;1:ac aa Y ab bw aj",
    "1:ad aa Y ab bw aj;1:ac aa Y ab cq;1:ad aa Y ab cq;1:ac aa su LL;1:ad aa su LL;1:ac aa su V",
    "1:ad aa su V;1:ac aa Y ab uq;1:ad aa Y ab uq;0:kn ad aa ik ab dx;dv;dx bi eq;5:dv bi eq",
    "5:dx bi he;5:dv bi he;5:dx bi bz;5:dv bi bz;1:ac aa ik ab dx;dv;dx bi eq;5:dv bi eq",
    "5:dx bi he;5:dv bi he;5:dx bi bz;5:dv bi bz;1:ad aa gy ab dx;dv;dx bi eq;5:dv bi eq",
    "5:dx bi he;5:dv bi he;@1F18 1:ac aa gy ab dx;dv;dx bi eq;5:dv bi eq;5:dx bi he;5:dv bi he",
    "@1F20 1:ad aa ETA ab dx;dv;dx bi eq;5:dv bi eq;5:dx bi he;5:dv bi he;5:dx bi bz;5:dv bi bz",
    "1:ac aa ETA ab dx;dv;dx bi eq;5:dv bi eq;5:dx bi he;5:dv bi he;5:dx bi bz;5:dv bi bz",
    "1:ad aa mg ab dx;dv;dx bi eq;5:dv bi eq;5:dx bi he;5:dv bi he;5:dx bi bz;5:dv bi bz",
    "1:ac aa mg ab dx;dv;dx bi eq;5:dv bi eq;5:dx bi he;5:dv bi he;5:dx bi bz;5:dv bi bz",
    "1:ad aa jg ab dx;dv;dx bi eq;5:dv bi eq;5:dx bi he;5:dv bi he;@1F48 1:ac aa jg ab dx;dv",
    "dx bi eq;5:dv bi eq;5:dx bi he;5:dv bi he;@1F50 1:ad aa gp ab dx;dv;dx bi eq;5:dv bi eq",
    "5:dx bi he;5:dv bi he;5:dx bi bz;5:dv bi bz;@1F59 1:ac aa gp ab dv;@1F5B 6:bi eq;@1F5D he",
    "@1F5F bz;1:ad aa hs ab dx;dv;dx bi eq;5:dv bi eq;5:dx bi he;5:dv bi he;5:dx bi bz;5:dv bi bz",
    "1:ac aa hs ab dx;dv;dx bi eq;5:dv bi eq;5:dx bi he;5:dv bi he;5:dx bi bz;5:dv bi bz",
    "1:ad aa ik ab eq;he;3:gy ab eq;he;3:ETA ab eq;he;3:mg ab eq;he;3:jg ab eq;he;3:gp ab eq;he",
    "3:hs ab eq;he;@1F80 3:ik ab dx bi bx;5:dv bi bx;5:dx bi eq bi bx;5:dv bi eq bi bx",
    "5:dx bi he bi bx;5:dv bi he bi bx;5:dx bi bz bi bx;5:dv bi bz bi bx;1:ac aa ik ab dx bi cg",
    "5:dv bi cg;5:dx bi eq bi cg;5:dv bi eq bi cg;5:dx bi he bi cg;5:dv bi he bi cg",
    "5:dx bi bz bi cg;5:dv bi bz bi cg;1:ad aa ETA ab dx bi bx;5:dv bi bx;5:dx bi eq bi bx",
    "5:dv bi eq bi bx;5:dx bi he bi bx;5:dv bi he bi bx;5:dx bi bz bi bx;5:dv bi bz bi bx",
    "1:ac aa ETA ab dx bi cg;5:dv bi cg;5:dx bi eq bi cg;5:dv bi eq bi cg;5:dx bi he bi cg",
    "5:dv bi he bi cg;5:dx bi bz bi cg;5:dv bi bz bi cg;1:ad aa hs ab dx bi bx;5:dv bi bx",
    "5:dx bi eq bi bx;5:dv bi eq bi bx;5:dx bi he bi bx;5:dv bi he bi bx;5:dx bi bz bi bx",
    "5:dv bi bz bi bx;1:ac aa hs ab dx bi cg;5:dv bi cg;5:dx bi eq bi cg;5:dv bi eq bi cg",
    "5:dx bi he bi cg;5:dv bi he bi cg;5:dx bi bz bi cg;5:dv bi bz bi cg;1:ad aa ik ab VRACHY;dp",
    "eq bi bx;5:bx;he bi bx;@1FB6 5:bz;6:bi bx;1:ac aa ik ab VRACHY;dp;eq;he;cg;1:KORONIS;cg;dx;bz",
    "in bi bz;1:ad aa ETA ab eq bi bx;5:bx;he bi bx;@1FC6 5:bz;6:bi bx;1:ac aa gy ab eq;he",
    "3:ETA ab eq;he;cg;1:dx bi eq;he;bz;1:ad aa mg ab VRACHY;dp;in bi eq;he;@1FD6 5:bz;in bi bz",
    "1:ac aa mg ab VRACHY;dp;eq;he;@1FDD 1:dv bi eq;he;bz;1:ad aa gp ab VRACHY;dp;in bi eq;he",
    "3:RHO ab dx;dv;3:gp ab bz;in bi bz;1:ac aa gp ab VRACHY;dp;eq;he;3:RHO ab dv;1:in bi eq;he",
    "1:eq;@1FF2 ad aa hs ab eq bi bx;5:bx;he bi bx;@1FF6 5:bz;6:bi bx;1:ac aa jg ab eq;he",
    "3:hs ab eq;he;cg;1:he;dv"]

end DenseSketch.Text.Name
