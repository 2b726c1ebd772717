/-!
# Names of characters: punctuation, signs, arrows and shapes

A table in the short form that `Text.Name` reads.  Data of the Unicode character database, version
14.
-/

namespace DenseSketch.Text.Name

/-- The names from U+2000 to U+2FFF. -/
def signs : List String :=
  [
    "@2000 0:EN QUAD;0:EM QUAD;0:EN ll;0:EM ll;0:THREE-PER-EM ll;0:FOUR-PER-EM ll;0:SIX-PER-EM ll",
    "0:FIGURE ll;0:cc ll;0:THIN ll;0:HAIR ll;0:ex WIDTH ll;NON-JOINER;JOINER;0:nw bj;0:rn bj;0:py",
    "NON-BREAKING py;0:FIGURE jw;0:EN jw;0:EM jw;0:as gf;0:al an gw;1:is gw;0:av de eg bj",
    "0:ai de eg bj;0:de LOW-9 eg bj;1:HIGH-REVERSED-9 eg bj;0:av al eg bj;0:ai al eg bj",
    "0:al LOW-9 eg bj;1:HIGH-REVERSED-9 eg bj;0:DAGGER;al DAGGER;0:ne;ez ne;0:cs cy LEADER",
    "0:co cy LEADER;0:as ps;0:HYPHENATION tl;0:gw fh;0:vp fh;0:nw EMBEDDING;0:rn EMBEDDING",
    "0:POP DIRECTIONAL FORMATTING;0:nw OVERRIDE;0:rn OVERRIDE;0:NARROW NO-BREAK ll;0:PER MILLE ak",
    "1:jx ba ak;0:uv;al uv;0:es uv;0:bq uv;al uv;1:es uv;0:xu;de eb fr eg bj;1:da fr eg bj",
    "0:REFERENCE bj;0:al dw bj;0:qx;qg;UNDERTIE;ma TIE;0:xu INSERTION tl;0:ASTERISM;py ne;0:hq qk",
    "0:av bn bd ab QUILL;0:ai bn bd ab QUILL;0:al fc bj;0:fc dw bj;0:dw fc bj;0:TIRONIAN ak ET",
    "0:bq PILCROW ak;0:ax am ne;1:ah ne;0:is dh;0:bq jt;0:CLOSE UP;0:co ASTERISKS ALIGNED nq",
    "0:sn og ak;0:SWUNG jw;0:ca UNDERTIE;0:FLOWER cc bj;0:aw cy cc;0:kj uv;0:bt cy cc;0:by cy cc",
    "0:co cy cc;0:bt cy bj;0:fy gr;0:TRICOLON;an bt du;0:ce mq ll;0:zt JOINER",
    "0:FUNCTION APPLICATION;0:INVISIBLE bs;fh;cz;@2066 0:nw ISOLATE;0:rn ISOLATE",
    "0:FIRST STRONG ISOLATE;0:POP DIRECTIONAL ISOLATE;0:INHIBIT SYMMETRIC SWAPPING",
    "0:ACTIVATE SYMMETRIC SWAPPING;0:INHIBIT kk af SHAPING;0:ACTIVATE kk af SHAPING",
    "0:NATIONAL cr SHAPES;0:NOMINAL cr SHAPES;0:hm ex;ft ad aa I;@2074 1:bt;by;fx;bv;br;dm;cz ak",
    "1:og;gn ak;1:av cd;1:ai cd;1:ft ad aa N;0:pj ex;cs;co;aw;bt;by;fx;bv;br;dm;cz ak;1:og;gn ak",
    "1:av cd;1:ai cd;@2090 0:ft pj ad aa A;E;O;X;zk;H;K;+3;P;S;+;@20A0 0:EURO-CURRENCY ak;0:iw ak",
    "0:CRUZEIRO ak;0:FRENCH FRANC ak;0:LIRA ak;0:MILL ak;0:NAIRA ak;0:PESETA ak;0:RUPEE ak",
    "0:WON ak;0:NEW SHEQEL ak;0:DONG ak;0:EURO ak;0:KIP ak;0:TUGRIK ak;0:DRACHMA ak",
    "0:GERMAN PENNY ak;0:PESO ak;0:GUARANI ak;0:AUSTRAL ak;0:HRYVNIA ak;0:CEDI ak",
    "0:LIVRE TOURNOIS ak;0:SPESMILO ak;0:TENGE ak;0:INDIAN RUPEE ak;0:TURKISH LIRA ak",
    "0:NORDIC bj ak;0:MANAT ak;0:RUBLE ak;0:LARI ak;0:BITCOIN ak;0:SOM ak;@20D0 0:dj av dd aj",
    "1:ai dd aj;1:fl an gw ho;1:fu an gw ho;1:el ae aj;1:iy ae aj;1:av ae aj;1:ai ae aj;1:ei ho",
    "1:iy ei ho;1:el ei ho;1:aw du aj;1:bt du aj;1:ENCLOSING bo;bn;ek;bo pg;1:av ai ae aj",
    "1:ENCLOSING SCREEN;KEYCAP;UPWARD cb bg;1:ie hj ho;1:al an at ho;1:ANNUITY au;1:es UNDERDOT",
    "1:WIDE BRIDGE aj;1:am ae ho;1:fl al hj ho;1:ah dd ab en ay;1:am dd ab en ay;1:av ae aq",
    "1:ai ae aq;1:dh aj;@2100 0:ACCOUNT OF;0:ADDRESSED TO ts SUBJECT;0:hf ac C;0:DEGREE CELSIUS",
    "0:dz gw au;0:CARE OF;0:CADA UNA;0:EULER CONSTANT;0:SCRUPLE;DEGREE FAHRENHEIT;0:it ad G;1:ac H",
    "0:ox ac H;0:hf ac H;0:PLANCK CONSTANT;2:dy co PI;0:it ac I;0:ox ac I;0:it ac L;1:ad L",
    "0:L B gf au;0:hf ac N;0:NUMERO ak;0:ov RECORDING COPYRIGHT;0:it ac P;0:hf ac P;+;0:it ac R",
    "0:ox ac R;0:hf ac R;0:PRESCRIPTION TAKE;0:RESPONSE;SERVICE bj;0:ju ak;0:TRADE bj ak",
    "0:VERSICLE;hf ac Z;0:OUNCE ak;0:OHM ak;0:ca OHM ak;0:ox ac Z;0:ch kn ad aa mg;0:KELVIN ak",
    "0:ANGSTROM ak;0:it ac B;0:ox ac C;0:ESTIMATED au;0:it ad E;1:ac E;+;0:ch ac F;0:it ac M",
    "1:ad O;0:ec au;0:BET au;0:pw au;0:DALET au;0:INFORMATION SOURCE;0:cp ac Q;0:FACSIMILE ak",
    "0:hf ad PI;lh;1:ac lh;PI;1:N-ARY SUMMATION;0:ch er ac G;L;0:bq er ac L;0:ch er ac Y",
    "0:hf rj ac D;2:ad D;+;I;+;0:PROPERTY gw;0:ch nd;0:PER ak;0:AKTIESELSKAB;ch ad F",
    "0:au tp SAMARITAN SOURCE;0:VULGAR hq cs SEVENTH;NINTH;TENTH;tm;2:co vh;2:cs FIFTH;2:co FIFTHS",
    "2:aw FIFTHS;2:bt FIFTHS;2:cs SIXTH;2:by SIXTHS;2:cs hy;2:aw km;2:by km;2:bv km",
    "0:hq NUMERATOR cs;0:ROMAN pb cs;co;aw;bt;by;fx;bv;br;dm;jx;pr;np;im;cs az;2:by az;2:cs ba",
    "0:ad ROMAN pb cs;co;aw;bt;by;fx;bv;br;dm;jx;pr;np;im;cs az;3:by az;3:cs ba",
    "0:ROMAN pb cs ba C D;2:by ba;2:jx ba;2:bq cs az;0:ft ad aa bq C;0:ROMAN pb fx LATE af",
    "2:im EARLY af;3:ba;2:cs az ba;0:VULGAR hq ex vh;0:ch cr co;aw;@2190 0:am ae;0:bp ae;0:ah ae",
    "0:ay ae;0:av ai ae;0:UP di ae;0:gi ic ae;1:hc ae;0:gz hc ae;1:ic ae;0:am ae ab at",
    "0:ah ae ab at;0:am ro ae;0:ah ro ae;0:am co HEADED ae;0:bp co HEADED ae;0:ah co HEADED ae",
    "0:ay co HEADED ae;0:am ae ab hw;0:ah ae ab hw;0:am ae me gf;0:bp ae me gf;0:ah ae me gf",
    "0:ay ae me gf;0:UP di ae ab BASE;0:am ae ab bw;0:ah ae ab bw;0:am ae ab uq;0:ah ae ab uq",
    "0:av ai ro ae;2:ae ab at;0:ay xn ae;0:bp ae ab TIP am;ah;0:ay ae ab TIP am;ah",
    "0:ah ae ab hb ay;0:ay ae ab hb am;0:el se ta ae;0:iy se ta ae;0:gi ic ae TO fl gf",
    "0:am ae TO gf dy ah ae TO gf;0:el fg bo ae;0:iy fg bo ae;0:am dd ab en bp;ay;0:bp dd ab en ah",
    "am;0:ah dd ab en bp;ay;0:ay dd ab en ah;am;0:ah ae dy am ae;0:bp ae am OF ay ae",
    "0:am ae dy ah ae;1:xa lu;0:bp xa lu;0:ah xa lu;0:ay xa lu;0:am dd dy ah dd;0:ah dd dy am dd",
    "0:am al ae ab at;0:av ai al ae ab at;0:ah al ae ab at;0:am al ae;0:bp al ae;0:ah al ae",
    "0:ay al ae;0:av ai al ae;0:UP di al ae;0:gi ic al ae;1:hc al ae;0:gz hc al ae;1:ic al ae",
    "0:am es ae;0:ah es ae;0:am SQUIGGLE ae;0:ah SQUIGGLE ae;0:bp ae ab al at;0:ay ae ab al at",
    "0:am on ae;0:bp on ae;0:ah on ae;0:ay on ae;0:am ae TO gf;0:ah ae TO gf;0:am bc ae;0:bp bc ae",
    "0:ah bc ae;0:ay bc ae;0:bp bc ae me gf;3:ON PEDESTAL;5:ab as gf;6:an gf;2:al ae;4:ON PEDESTAL",
    "0:ah bc ae me WALL;0:gi ic ae TO hb;0:gz hc ae TO hb;0:UP di bc ae;0:ai ae ab ad bo",
    "0:ay ae am OF bp ae;0:aw ah lu;0:am ae ab an at;0:ah ae ab an at;0:av ai ae ab an at",
    "0:am ae ab al an at;0:ah ae ab al an at;0:av ai ae ab al an at;0:am OPEN-HEADED ae",
    "0:ah OPEN-HEADED ae;0:av ai OPEN-HEADED ae;0:tp ALL;0:COMPLEMENT;za ml;0:THERE EXISTS",
    "DOES mt EXIST;0:EMPTY SET;0:INCREMENT;NABLA;oy OF;0:mt AN oy OF;0:ad oy OF;0:pn AS MEMBER",
    "0:DOES mt CONTAIN AS MEMBER;0:ad pn AS MEMBER;0:yf OF PROOF;0:N-ARY ls;COPRODUCT;SUMMATION",
    "0:og ak;0:MINUS-OR-PLUS ak;0:cy cz;0:pp qk;0:SET og;0:dh do;0:ei do;0:ne do;0:bn ROOT",
    "0:CUBE ROOT;0:FOURTH ROOT;0:PROPORTIONAL TO;0:uk;ai fr;0:fr;yv fr;0:SPHERICAL fr;0:DIVIDES",
    "DOES mt DIVIDE;0:qh TO;0:mt qh TO;0:lp bi;OR;0:fe;ow;hr;al hr;0:es hr;0:CONTOUR hr",
    "0:SURFACE hr;0:VOLUME hr;0:iy hr;CONTOUR hr;0:el CONTOUR hr;0:THEREFORE;BECAUSE;RATIO",
    "PROPORTION;cy og;0:EXCESS;GEOMETRIC PROPORTION;0:HOMOTHETIC;cq do;0:bq cq;0:ca LAZY S",
    "0:SINE ro;0:WREATH ls;0:mt cq;0:og cq;0:ASYMPTOTICALLY cj TO;0:mt ASYMPTOTICALLY cj TO",
    "0:nt cj TO;1:BUT mt ACTUALLY cj TO;0:NEITHER nt NOR ACTUALLY cj TO;0:lt cj TO;0:mt lt cj TO",
    "0:lt cj OR cj TO;0:es cq;0:ALL cj TO;0:hg TO;0:GEOMETRICALLY hg TO;0:DIFFERENCE jn",
    "0:APPROACHES ts LIMIT;0:GEOMETRICALLY cj TO;0:nt cj TO OR ts IMAGE OF;0:IMAGE OF OR nt cj TO",
    "0:iw gn;0:gn iw;0:ei IN cj TO;1:cj TO;0:CORRESPONDS TO;0:ESTIMATES;EQUIANGULAR TO;0:hk gn",
    "0:mk cj TO;0:cj TO BY DEFINITION;0:yv BY;0:QUESTIONED cj TO;0:mt cj TO;0:IDENTICAL TO",
    "0:mt IDENTICAL TO;0:STRICTLY hg TO;0:bu OR cj TO;0:bh OR cj TO;0:bu dy cj TO;0:bh dy cj TO",
    "0:bu BUT mt cj TO;0:bh BUT mt cj TO;0:MUCH bu;bh;0:jn;mt hg TO;1:bu;bh;0:NEITHER bu NOR cj TO",
    "1:bh NOR cj TO;0:bu OR hg TO;0:bh OR hg TO;0:NEITHER bu NOR hg TO;1:bh NOR hg TO;0:bu OR bh",
    "0:bh OR bu;0:NEITHER bu NOR bh;1:bh NOR bu;0:kf;ki;kf OR cj TO;0:ki OR cj TO;0:kf OR hg TO",
    "0:ki OR hg TO;0:DOES mt PRECEDE;SUCCEED;0:ih OF;0:gk OF;0:mt A ih OF;2:gk OF;0:ih OF OR cj TO",
    "0:gk OF OR cj TO;0:NEITHER A ih OF NOR cj TO;2:gk OF NOR cj TO;0:ih OF ab mt cj TO",
    "0:gk OF ab mt cj TO;0:MULTISET;1:gx;ow;0:bn IMAGE OF;1:yz OF;1:IMAGE OF OR cj TO",
    "1:yz OF OR cj TO;1:CAP;CUP;0:dk cz;og;bs;pp qk;1:cy do;1:ei do;1:dh do;1:gn;jw;0:fb cz;og;bs",
    "cy do;0:ai lf;0:av lf;0:di lf;0:UP lf;0:ASSERTION;MODELS;TRUE;FORCES;es an gf ai no",
    "0:al an gf al ai no;0:DOES mt PROVE;0:mt TRUE;0:DOES mt FORCE;0:NEGATED al an gf al ai no",
    "0:kf UNDER RELATION;0:ki UNDER RELATION;0:sv ql OF;0:pn AS sv ql;0:sv ql OF OR cj TO",
    "0:pn AS sv ql OR cj TO;0:yz OF;0:IMAGE OF;0:MULTIMAP;HERMITIAN CONJUGATE MATRIX;0:INTERCALATE",
    "XOR;NAND;NOR;ai fr ab ARC;1:bg;0:N-ARY lp bi;OR;1:fe;ow;0:ek do;0:cy do;0:hk do;0:pp bs",
    "0:BOWTIE;av sv FACTOR tb ls;0:ai sv FACTOR tb ls;0:av tb ls;0:ai tb ls;0:bq cq gn;0:kc lp OR",
    "bi;0:al ih;gk;fe;ow;0:PITCHFORK;cj bi qh TO;0:bu ab cy;0:bh ab cy;0:nr MUCH bu;bh",
    "0:bu cj TO OR bh;0:bh cj TO OR bu;0:cj TO OR bu;bh;kf;ki;0:DOES mt PRECEDE OR cj",
    "2:SUCCEED OR cj;0:mt bn IMAGE OF OR cj TO;2:yz OF OR cj TO;0:bn IMAGE OF OR mt cj TO",
    "1:yz OF OR mt cj TO;0:bu BUT mt hg TO;0:bh BUT mt hg TO;0:kf BUT mt hg TO;0:ki BUT mt hg TO",
    "0:mt sv ql OF;0:DOES mt CONTAIN AS sv ql;0:mt sv ql OF OR cj TO",
    "0:DOES mt CONTAIN AS sv ql OR cj;0:an ps;0:MIDLINE as ps;0:UP ai dl ps;0:di ai dl ps",
    "0:oy OF ab fl as at;3:an gf AT yf OF as at;0:ad oy OF ab an gf AT yf OF as at",
    "0:oy OF ab cy aj;3:lr;0:ad oy OF ab lr;0:oy OF ab gd;co as STROKES;0:pn ab fl as at",
    "2:an gf AT yf OF as at;0:ad pn ab an gf AT yf OF as at;0:pn ab lr;0:ad pn ab lr",
    "0:Z qd BAG MEMBERSHIP;0:DIAMETER ak;0:ELECTRIC ae;0:HOUSE;UP bm;0:di bm;0:PROJECTIVE",
    "PERSPECTIVE;WAVY gw;0:av qv;0:ai qv;0:av yg;0:ai yg;0:ha ai CROP;1:av CROP;0:se ai CROP",
    "1:av CROP;0:bq mt ak;0:bn lq;0:ARC;SEGMENT;SECTOR;ju RECORDER;0:POSITION nj;0:VIEWDATA bn",
    "0:PLACE OF INTEREST ak;0:ch mt ak;0:WATCH;HOURGLASS;se av hb;1:ai hb;0:ha av hb;1:ai hb",
    "0:se dg hr;0:ha dg hr;0:FROWN;SMILE;UP bm jn co as BARS;0:OPTION KEY;0:ERASE TO ts ai",
    "0:X IN A pi BOX;0:yr;eb fr bd;0:da fr bd;0:ERASE TO ts av;0:BENZENE ei;0:CYLINDRICITY",
    "ALL AROUND-PROFILE;0:SYMMETRY;TOTAL RUNOUT;0:DIMENSION ORIGIN;0:CONICAL TAPER;0:SLOPE",
    "COUNTERBORE;COUNTERSINK;APL FUNCTIONAL au I-BEAM;SQUISH QUAD;3:QUAD cj;DIVIDE;ek;JOT;bo",
    "3:bo STILE;JOT;3:qk gf;3:pg gf;3:QUAD qk;pg;bu;bh;3:am VANE;3:ah VANE;3:QUAD am ae;4:ah ae",
    "3:bo pg;3:di lf gd;3:mk STILE;3:QUAD di xu;4:mk;3:di lf JOT;3:bp VANE;3:QUAD bp ae;3:UP lf lr",
    "3:DEL STILE;3:QUAD UP xu;4:DEL;3:UP lf JOT;3:ay VANE;3:QUAD ay ae;3:QUOTE gd;3:mk gd;3:ek gd",
    "3:JOT gd;3:bo gd;3:UP SHOE JOT;3:QUOTE QUAD;3:bo hk;3:QUAD iw;3:UP lf bk;3:DEL bk;3:hk bk",
    "3:JOT bk;3:bo bk;3:di SHOE STILE;3:av SHOE STILE;3:cq bk;3:bh bk;3:et gf;3:DEL cq;3:ZILDE",
    "STILE cq;3:jt gd;3:QUAD mt cj;4:fc;3:di xu cq;3:UP xu cq;3:mg;RHO;hs;ik gd;3:gy gd;3:mg gd",
    "3:hs gd;3:ik;0:mt ua bj;0:ai fr ab ay xn ae;0:SHOULDERED fg BOX;0:BELL au;0:an gw ab bb cy",
    "0:INSERTION au;0:CONTINUOUS UNDERLINE au;0:DISCONTINUOUS UNDERLINE au;0:EMPHASIS au",
    "0:COMPOSITION au;0:bc bn ab dz an gw;0:ENTER au;0:ALTERNATIVE KEY au;0:HELM au",
    "0:dk as gf ab NOTCH;1:bg di;0:BROKEN bo ab NORTHWEST ae;0:UNDO au;0:MONOSTABLE au",
    "0:HYSTERESIS au;0:OPEN-CIRCUIT-OUTPUT H-TYPE au;1:L-TYPE au;0:PASSIVE-PULL-DOWN-OUTPUT au",
    "0:PASSIVE-PULL-UP-OUTPUT au;0:DIRECT CURRENT au af co;0:SOFTWARE-FUNCTION au",
    "0:APL FUNCTIONAL au QUAD;0:DECIMAL fh KEY au;0:PREVIOUS PAGE;0:NEXT PAGE;0:PRINT SCREEN au",
    "0:CLEAR SCREEN au;0:av cd dr bw;2:ni;cu bw;0:ai cd dr bw;2:ni;cu bw;0:av bn bd dr hb;3:ni",
    "cu hb;0:ai bn bd dr hb;3:ni;cu hb;0:av kc bd dr bw;3:bb PIECE;3:cu bw;0:kc bd ni",
    "0:ai kc bd dr bw;3:bb PIECE;3:cu bw;0:hr ni;0:as gw ni;0:dr av OR cu ai kc bd hi",
    "1:ai OR cu av kc bd hi;0:SUMMATION se;ha;0:se bn bd;0:ha bn bd;3:dy se bn bd;0:RADICAL au ha",
    "0:av an BOX gw;0:ai an BOX gw;0:as SCAN LINE-1;LINE-3;LINE-7;LINE-9",
    "0:DENTISTRY au cl an bi se ai;5:ha ai;4:ab bo;3:di bi as ab bo;3:UP bi as ab bo;3:an ab bg",
    "3:di bi as ab bg;3:UP bi as ab bg;3:an bi ro;3:di bi as ab ro;3:UP bi as ab ro;3:di bi as",
    "3:UP bi as;3:an bi se av;5:ha av;0:bn FOOT;0:RETURN au;0:EJECT au;0:an gw ni;0:METRICAL fd",
    "fl dy fu;1:fu dy fl;1:fl dy co SHORTS;1:co SHORTS dy fl;3:JOINED;1:TRISEME;TETRASEME",
    "PENTASEME;0:rr GROUND;0:FUSE;se cd;0:ha cd;0:se kc bd;0:ha kc bd;0:se ib ky bd;0:ha ib ky bd",
    "0:bc TRAPEZIUM;0:BENZENE ei ab bo;0:STRAIGHTNESS;FLATNESS;AC CURRENT;0:ELECTRICAL fe",
    "0:DECIMAL EXPONENT au;0:ax da al bg;1:eb al bg;1:hd al bg;1:gv al bg;1:da al bg ab an gf",
    "1:eb al bg ab an gf;1:da bg ab al an gf;0:ALARM CLOCK;0:STOPWATCH;TIMER CLOCK",
    "0:HOURGLASS ab FLOWING SAND;0:ax ce eb bg;2:da bg;2:hd bg;2:gv bg;0:al an gf;0:ax bn tp ge",
    "1:bo tp RECORD;0:POWER au;ON-OFF au;1:ON au;1:SLEEP au;0:OBSERVER EYE au;0:au tp NULL",
    "START OF HEADING;TEXT;2:yf OF TEXT;TRANSMISSION;2:ENQUIRY;ACKNOWLEDGE;BELL;BACKSPACE",
    "as TABULATION;2:gw FEED;2:an TABULATION;2:af FEED;2:CARRIAGE RETURN;2:SHIFT OUT;IN",
    "2:DATA LINK ESCAPE;2:DEVICE CONTROL cs;co;aw;bt;2:jf ACKNOWLEDGE;2:SYNCHRONOUS IDLE",
    "2:yf OF TRANSMISSION ey;2:CANCEL;yf OF ce;2:SUBSTITUTE;ESCAPE;FILE fh;2:GROUP fh;2:RECORD fh",
    "2:UNIT fh;2:ll;DELETE;0:BLANK au;0:fg BOX;0:au tp NEWLINE;DELETE af co;2:SUBSTITUTE af co",
    "@2440 0:OCR bw;CHAIR;FORK;ca FORK;1:BELT BUCKLE;1:BOW TIE;1:BRANCH BANK IDENTIFICATION",
    "1:AMOUNT OF ua;1:jw;CUSTOMER ACCOUNT dq;1:al pg;@2460 0:dk cr cs;co;aw;bt;by;fx;bv;br;dm",
    "1:dq jx;pr;np;qo;pv;nv;pd;nl;ob;qc;fm;0:rm cr cs;co;aw;bt;by;fx;bv;br;dm;1:dq jx;pr;np;qo;pv",
    "nv;pd;nl;ob;qc;fm;0:cr cs if ge;1:co if ge;1:aw if ge;1:bt if ge;1:by if ge;1:fx if ge",
    "1:bv if ge;1:br if ge;1:dm if ge;0:dq jx if ge;1:pr if ge;1:np if ge;1:qo if ge;1:pv if ge",
    "1:nv if ge;1:pd if ge;1:nl if ge;1:ob if ge;1:qc if ge;1:fm if ge;0:rm ft ad aa A;+25",
    "0:dk ft ac aa A;+25;2:ad aa A;+25;1:cr ex;0:jf dk dq pr;np;qo;pv;nv;pd;nl;ob;qc;fm",
    "0:al dk cr cs;co;aw;bt;by;fx;bv;br;dm;2:dq jx;0:jf dk cr ex;0:BOX DRAWINGS cl as;2:bl as",
    "2:cl an;2:bl an;2:cl es jw as;2:bl es jw as;2:cl es jw an;2:bl es jw an;2:cl kj jw as",
    "2:bl kj jw as;2:cl kj jw an;2:bl kj jw an;2:cl di bi ai;2:di cl bi ai bl;3:bl bi ai cl",
    "2:bl di bi ai;2:cl di bi av;2:di cl bi av bl;3:bl bi av cl;2:bl di bi av;2:cl UP bi ai",
    "2:UP cl bi ai bl;3:bl bi ai cl;2:bl UP bi ai;2:cl UP bi av;2:UP cl bi av bl;3:bl bi av cl",
    "2:bl UP bi av;2:cl an bi ai;2:an cl bi ai bl;2:UP bl bi ai di cl;2:di bl bi ai UP cl",
    "2:an bl bi ai cl;2:di cl bi ai UP bl;2:UP cl bi ai di bl;2:bl an bi ai;2:cl an bi av",
    "2:an cl bi av bl;2:UP bl bi av di cl;2:di bl bi av UP cl;2:an bl bi av cl;2:di cl bi av UP bl",
    "2:UP cl bi av di bl;2:bl an bi av;2:cl di bi as;2:av bl bi ai di cl;2:ai bl bi av di cl",
    "2:di cl bi as bl;3:bl bi as cl;2:ai cl bi av di bl;2:av cl bi ai di bl;2:bl di bi as",
    "2:cl UP bi as;2:av bl bi ai UP cl;2:ai bl bi av UP cl;2:UP cl bi as bl;3:bl bi as cl",
    "2:ai cl bi av UP bl;2:av cl bi ai UP bl;2:bl UP bi as;2:cl an bi as;2:av bl bi ai an cl",
    "2:ai bl bi av an cl;2:an cl bi as bl;2:UP bl bi di as cl;2:di bl bi UP as cl;2:an bl bi as cl",
    "2:av UP bl bi ai di cl;2:ai UP bl bi av di cl;2:av di bl bi ai UP cl;2:ai di bl bi av UP cl",
    "2:di cl bi UP as bl;2:UP cl bi di as bl;2:ai cl bi av an bl;2:av cl bi ai an bl;2:bl an bi as",
    "2:cl al jw as;2:bl al jw as;2:cl al jw an;2:bl al jw an;2:al as;an;2:di de bi ai al",
    "3:al bi ai de;2:al di bi ai;2:di de bi av al;3:al bi av de;2:al di bi av;2:UP de bi ai al",
    "3:al bi ai de;2:al UP bi ai;2:UP de bi av al;3:al bi av de;2:al UP bi av;2:an de bi ai al",
    "3:al bi ai de;2:al an bi ai;2:an de bi av al;3:al bi av de;2:al an bi av;2:di de bi as al",
    "3:al bi as de;2:al di bi as;2:UP de bi as al;3:al bi as de;2:al UP bi as;2:an de bi as al",
    "3:al bi as de;2:al an bi as;2:cl ARC di bi ai;av;4:UP bi av;ai;3:dl dr ai TO cu av",
    "5:av TO cu ai;4:gr;3:av;UP;ai;di;2:bl av;UP;ai;di;2:cl av bi bl ai;3:UP bi bl di",
    "2:bl av bi cl ai;3:UP bi cl di;0:dr dg ey;0:cu cs hy ey;2:fk ey;1:aw km ey;1:dg ey;1:by km ey",
    "1:aw ji ey;1:bv km ey;0:if ey;0:av bv km ey;1:aw ji ey;1:by km ey;1:dg ey;1:aw km ey",
    "1:cs fk ey;2:hy ey;0:ai dg ey;0:cl rd;0:ce rd;0:DARK rd;0:dr cs hy ey;0:ai cs hy ey",
    "0:jh cu av;ai;1:dr av;3:bi cu av bi cu ai;5:ai;4:dr ai bi cu av;ai;2:ai;3:bi cu av;6:bi cu ai",
    "0:ax bn;0:bc bn;2:ab pc xy;2:nf ax ad bn;0:bn ab as FILL;2:an FILL",
    "2:ORTHOGONAL CROSSHATCH FILL;2:dr av TO cu ai FILL;3:ai TO cu av FILL;2:dl CROSSHATCH FILL",
    "0:ax ad bn;0:bc ad bn;0:ax pi;0:bc pi;0:ax an pi;0:bc an pi;0:ax PARALLELOGRAM",
    "0:bc PARALLELOGRAM;0:ax hd bg;0:bc hd bg;0:ax hd ad bg;0:bc hd ad bg;0:ax da bg;0:bc da bg",
    "0:ax da ad bg;0:bc da ad bg;0:ax da POINTER;0:bc da POINTER;0:ax gv bg;0:bc gv bg",
    "0:ax gv ad bg;0:bc gv ad bg;0:ax eb bg;0:bc eb bg;0:ax eb ad bg;0:bc eb ad bg;0:ax eb POINTER",
    "0:bc eb POINTER;0:ax ek;0:bc ek;2:nf ax ad ek;0:FISHEYE;lq;bc bo;0:fy bo;0:bo ab an FILL",
    "0:BULLSEYE;ax bo;0:bo ab av dg ax;2:ai dg ax;2:cu dg ax;2:dr dg ax;3:ai jh ax",
    "2:ALL BUT dr av jh ax;0:av dg ax bo;0:ai dg ax bo;0:oz ne;bc bo;0:dr dg oz bc bo",
    "0:cu dg oz bc bo;0:dr av jh xv ARC;1:ai jh xv ARC;0:cu ai jh xv ARC;1:av jh xv ARC;0:dr dg bo",
    "0:cu dg bo;0:ax cu ai bg;2:av bg;1:dr av bg;2:ai bg;0:bc ne;0:bn ab av dg ax;2:ai dg ax",
    "2:dr av dl dg ax;2:cu ai dl dg ax;0:bc bn ab an BISECTING gw;1:hd bg ab cy",
    "0:hd bg ab av dg ax;3:ai dg ax;0:ee bo;0:bc bn ab dr av jh;3:cu av jh;4:ai jh;3:dr ai jh",
    "1:bo ab dr av jh;3:cu av jh;4:ai jh;3:dr ai jh;0:dr av bg;1:ai bg;0:cu av bg;0:bc ce bn",
    "0:ax ce bn;0:bc ce ad bn;0:ax ce ad bn;0:cu ai bg;0:ax SUN ab RAYS;0:CLOUD;zr;SNOWMAN;COMET",
    "ax hk;0:bc hk;0:LIGHTNING;THUNDERSTORM;SUN;ASCENDING NODE;0:DESCENDING NODE;0:CONJUNCTION",
    "OPPOSITION;ax ju;0:bc ju;0:zz BOX;2:ab ua;X;0:ny;zr ab RAIN DROPS;0:HOT BEVERAGE",
    "0:bc SHOGI PIECE;0:ax SHOGI PIECE;0:SHAMROCK;bq cp FLORAL jm ne;0:ax av cb ck;1:ai cb ck",
    "0:bc av cb ck;1:UP cb ck;1:ai cb ck;1:di cb ck;0:SKULL bi CROSSBONES;0:CAUTION ak",
    "0:RADIOACTIVE ak;0:BIOHAZARD ak;0:CADUCEUS;ANKH;ORTHODOX gr;0:CHI RHO;0:gr OF LORRAINE",
    "JERUSALEM;0:hk bi ub;0:FARSI au;0:ADI SHAKTI;0:HAMMER bi SICKLE;0:PEACE au;0:YIN YANG",
    "0:TRIGRAM tp HEAVEN;LAKE;FIRE;THUNDER;WIND;tn;qa;rr;0:WHEEL OF DHARMA;0:bc FROWNING ds",
    "1:jq ds;0:ax jq ds;0:bc SUN ab RAYS;0:FIRST fk oo;0:LAST fk oo;0:MERCURY;FEMALE ak;0:rr",
    "MALE ak;0:JUPITER;SATURN;URANUS;NEPTUNE;PLUTO;ARIES;TAURUS;GEMINI;CANCER;LEO;VIRGO;LIBRA",
    "SCORPIUS;SAGITTARIUS;CAPRICORN;AQUARIUS;PISCES;bc ip un;qi;ROOK;pl;ht;PAWN;0:ax ip un;qi;ROOK",
    "pl;ht;PAWN;1:SPADE SUIT;0:bc jm SUIT;1:ek SUIT;0:ax CLUB SUIT;0:bc SPADE SUIT;0:ax jm SUIT",
    "1:ek SUIT;0:bc CLUB SUIT;0:HOT SPRINGS;0:fk sw;0:hy sw;0:BEAMED hy NOTES;1:sc NOTES",
    "0:MUSIC FLAT ak;1:NATURAL ak;1:SHARP ak;0:ic SYRIAC gr;0:hc SYRIAC gr",
    "0:UNIVERSAL RECYCLING au;0:RECYCLING au tp TYPE-1 sb;3:TYPE-2 sb;3:TYPE-3 sb;3:TYPE-4 sb",
    "3:TYPE-5 sb;3:TYPE-6 sb;3:TYPE-7 sb;3:GENERIC MATERIALS;0:ax UNIVERSAL RECYCLING au",
    "0:RECYCLED PAPER au;0:PARTIALLY-RECYCLED PAPER au;0:PERMANENT PAPER ak;0:WHEELCHAIR au",
    "0:DIE FACE-1;+5;0:bc bo ab cy ai;3:co du;0:ax bo ab bc cy ai;3:co bc du;0:ur tp YANG;YIN",
    "0:DIGRAM tp GREATER YANG;2:LESSER YIN;YANG;2:GREATER YIN;0:bc FLAG;0:ax FLAG;0:HAMMER bi PICK",
    "0:ANCHOR;ln SWORDS;0:STAFF OF AESCULAPIUS;0:SCALES;ALEMBIC;FLOWER;GEAR;STAFF OF HERMES",
    "0:ATOM au;0:FLEUR-DE-LIS;sa bc hk;0:aw LINES CONVERGING ai;av;0:WARNING ak;0:ga VOLTAGE ak",
    "0:DOUBLED FEMALE ak;1:MALE ak;0:INTERLOCKED FEMALE bi MALE ak;0:MALE bi FEMALE ak;1:ab at ak",
    "bi MALE bi FEMALE ak;0:an MALE ab at ak;0:as MALE ab at ak;0:ce bc bo;1:ax bo;1:ad bc bo",
    "0:MARRIAGE au;0:DIVORCE au;0:UNMARRIED PARTNERSHIP au;0:COFFIN;FUNERAL URN;0:NEUTER;CERES",
    "PALLAS;JUNO;VESTA;CHIRON;ax oo LILITH;0:SEXTILE;SEMISEXTILE;QUINCUNX;SESQUIQUADRATE",
    "SOCCER BALL;0:BASEBALL;fb KEY;0:bc DRAUGHTS MAN;un;0:ax DRAUGHTS MAN;un",
    "0:SNOWMAN WITHOUT SNOW;0:SUN BEHIND CLOUD;0:RAIN;ax SNOWMAN;0:THUNDER CLOUD bi RAIN",
    "0:ch bc SHOGI PIECE;1:ax SHOGI PIECE;0:bc ek IN bn;0:ep LANES;0:DISABLED CAR;0:OPHIUCHUS;PICK",
    "CAR SLIDING;0:HELMET ab bc gr;0:dk ep LANES;0:CHAINS;NO ENTRY;0:fp ONE-WAY av WAY TRAFFIC",
    "0:ax TWO-WAY av WAY TRAFFIC;0:bc TWO-WAY av WAY TRAFFIC;0:ax av LANE MERGE;0:bc av LANE MERGE",
    "0:DRIVE SLOW ak;0:bl bc gv bg;0:av gl ENTRY;0:fb ny;0:vm dl IN bc bo IN ax bn;0:ax TRUCK",
    "0:RESTRICTED av ENTRY-1;+;0:ASTRONOMICAL au tp URANUS;0:bl bo ab at bi co du aj;0:PENTAGRAM",
    "RIGHT-HANDED INTERLACED PENTAGRAM;0:LEFT-HANDED INTERLACED PENTAGRAM;0:ca PENTAGRAM",
    "0:ax gr ON SHIELD;0:SHINTO SHRINE;0:CHURCH;CASTLE;HISTORIC SITE;0:GEAR WITHOUT HUB",
    "1:ab HANDLES;0:MAP au tp LIGHTHOUSE;0:qa;zr ON GROUND;0:FOUNTAIN;FLAG IN HOLE;0:FERRY",
    "SAILBOAT;bn bt xy;0:SKIER;ICE SKATE;0:ly ab BALL;0:TENT;rx BANK au;0:HEADSTONE GRAVEYARD au",
    "0:FUEL PUMP;0:CUP ON ax bn;0:bc FLAG ab as bb ax STRIPE;0:ax SAFETY vd;0:dr BLADE vd;0:ax vd",
    "0:cu BLADE vd;0:bc vd;bl ua bj;0:ju LOCATION ak;0:TAPE DRIVE;0:rp;oc;ig FIST;mf;0:VICTORY mf",
    "0:WRITING mf;0:cu ai PENCIL;0:PENCIL;dr ai PENCIL;0:bc NIB;0:ax NIB;0:ua bj;0:bl ua bj;0:gx X",
    "0:bl gx X;0:zz X;0:bl zz X;0:sa kn gr;0:bl kn gr;0:fg dz gr;0:bl fg dz gr;0:ft gr",
    "0:kg bc ft gr;0:sa ft gr;0:MALTESE gr;0:hk OF DAVID;0:bt ja dh;1:ty dh;0:bl bt ty dh",
    "0:bt CLUB-SPOKED dh;0:ax bt fa hk;0:bc bt fa hk;0:SPARKLES;STRESS sa bc hk;0:dk bc hk",
    "0:fg dz ax hk;0:ax dz bc hk;0:sa ax hk;0:bl sa ax hk;0:oi hk;0:kg bc hk;0:bl dh;0:fg dz dh",
    "0:br kz dh;1:fa ax hk;2:oi hk;0:fx fa ax hk;0:br fa RECTILINEAR ax hk",
    "0:bl br fa RECTILINEAR ax hk;0:np fa ax hk;0:pd fa dh;0:ja dh;0:fg dz ja dh;0:bl ja dh",
    "0:fx PETALLED ax bi bc FLORETTE;0:ax FLORETTE;0:bc FLORETTE;0:br PETALLED sa ax FLORETTE",
    "0:dk fg dz br fa hk;0:bl ja oi dh;0:SNOWFLAKE;TIGHT TRIFOLIATE SNOWFLAKE",
    "0:bl CHEVRON SNOWFLAKE;0:SPARKLE;bl SPARKLE;0:ty dh;0:br ja PROPELLER dh",
    "0:bl br ja PROPELLER dh;0:gr bj;0:kg bc bo;0:jf fb gr bj;0:cu ai DROP-SHADOWED bc bn",
    "0:dr ai DROP-SHADOWED bc bn;0:cu ai kg bc bn;0:dr ai kg bc bn;0:ax fc bj cn;0:bc fc bj cn",
    "1:dw bj cn;0:ax ek og bc X;0:bl dw bj au;0:cl an gf;0:ce an gf;0:bl an gf;1:de ch et eg bj cn",
    "2:et eg bj cn;1:al ch et eg bj cn;2:et eg bj cn;1:is de et eg bj cn;2:al et eg bj cn",
    "0:rg STEM vp ak cn;0:bl dw bj cn;1:jm dw bj cn;1:ax jm;0:cp bl ax jm ne;0:FLORAL jm",
    "0:cp FLORAL jm ne;0:ce av cd cn;1:ai cd cn;1:FLATTENED av cd cn;2:ai cd cn;1:eb fr bd cn",
    "1:da fr bd cn;0:bl eb fr eg bj cn;1:da fr eg bj cn;1:eb fr bd cn;1:da fr bd cn",
    "0:cl av ib ky bd cn;1:ai ib ky bd cn;0:ce av kc bd cn;1:ai kc bd cn;0:DINGBAT jf dk cr cs;co",
    "aw;bt;by;fx;bv;br;dm;3:dq jx;1:dk er cr cs;co;aw;bt;by;fx;bv;br;dm;3:dq jx;1:jf dk er cr cs",
    "co;aw;bt;by;fx;bv;br;dm;4:dq jx;0:bl WIDE-HEADED ah ae;1:cz ak;1:og ak;1:pp ak;1:gz hc ae",
    "1:ah ae;1:gi hc ae;0:DRAFTING tl ah ae;0:bl ROUND-TIPPED ah ae;0:ao ah ae;0:bl ao ah ae",
    "0:on ao ah ae;0:bl on ao ah ae;0:ax ah ae;0:THREE-D TOP-LIGHTED ah bm;1:BOTTOM-LIGHTED ah bm",
    "0:ax ah bm;0:bl ax rg ay bi ah ae;3:bp bi ah ae;0:SQUAT ax ah ae",
    "0:bl CONCAVE-POINTED ax ah ae;0:zj bc ah ae;0:LEFT-SHADED bc ah ae;0:BACK-TILTED kg bc ah ae",
    "0:yi kg bc ah ae;0:bl cu qj bc ah ae;1:dr qj bc ah ae;0:ra cu qj bc ah ae;0:kc uq",
    "0:ra dr qj bc ah ae;0:dk bl bc ah ae;0:WHITE-FEATHERED ah ae;0:BLACK-FEATHERED gz hc ae",
    "1:ah ae;1:gi hc ae;0:bl BLACK-FEATHERED gz hc ae;2:ah ae;2:gi hc ae;0:TEARDROP-BARBED ah ae",
    "0:bl TEARDROP-SHANKED ah ae;0:WEDGE-TAILED ah ae;0:bl WEDGE-TAILED ah ae",
    "0:OPEN-OUTLINED ah ae;0:al kc uq;0:aw DIMENSIONAL fr;0:bc bg nf ad bc bg;0:we;fg ih;gk",
    "0:av S-SHAPED BAG DELIMITER;0:ai S-SHAPED BAG DELIMITER;0:OR ab cy kl;0:ie hj PRECEDING ih",
    "0:gk PRECEDING hj;0:an gf ab as at;0:mq op dl;0:fl pp;0:mq vm dl;0:fb lp bi;OR",
    "0:bc ek ab sl cy;0:bi ab cy;0:oy OF OPENING bp;0:cu ai hb ab cy;0:dr av hb ab cy",
    "0:av OUTER JOIN;0:ai OUTER JOIN;0:if OUTER JOIN;0:ee UP lf;1:di lf;0:av bi ai al no;3:lf",
    "1:MULTIMAP;0:fl ai lf;1:av lf;0:UP lf ab bo aj;0:lq DIVIDED BY as RULE;0:bc CONCAVE-SIDED ek",
    "3:ab am TICK;4:ah TICK;1:bn ab am TICK;3:ah TICK;0:mq av bc bn bd;1:ai bc bn bd;1:av fr bd",
    "1:ai fr bd;1:av al fr bd;1:ai al fr bd;1:av bc ib ky bd;1:ai bc ib ky bd;1:av FLATTENED cd",
    "1:ai FLATTENED cd;0:bp kj ae;0:ay kj ae;0:el GAPPED bo ae;0:iy GAPPED bo ae;0:ai ae ab dk cz",
    "0:fl am ae;1:ah ae;1:av ai ae;1:am al ae;1:ah al ae;1:av ai al ae;1:am ae me gf;1:ah ae me gf",
    "1:am al ae me gf;1:ah al ae me gf;2:SQUIGGLE ae;0:BRAILLE PATTERN BLANK;DOTS-1;+;DOTS-12",
    "DOTS-3;DOTS-13;DOTS-23;DOTS-123;DOTS-4;DOTS-14;DOTS-24;DOTS-124;DOTS-34;DOTS-134;DOTS-234",
    "DOTS-1234;DOTS-5;DOTS-15;DOTS-25;DOTS-125;DOTS-35;DOTS-135;DOTS-235;DOTS-1235;DOTS-45",
    "DOTS-145;DOTS-245;DOTS-1245;DOTS-345;DOTS-1345;DOTS-2345;DOTS-12345;DOTS-6;DOTS-16;DOTS-26",
    "DOTS-126;DOTS-36;DOTS-136;DOTS-236;DOTS-1236;DOTS-46;DOTS-146;DOTS-246;DOTS-1246;DOTS-346",
    "DOTS-1346;DOTS-2346;DOTS-12346;DOTS-56;DOTS-156;DOTS-256;DOTS-1256;DOTS-356;DOTS-1356",
    "DOTS-2356;DOTS-12356;DOTS-456;DOTS-1456;DOTS-2456;DOTS-12456;DOTS-3456;DOTS-13456;DOTS-23456",
    "DOTS-123456;DOTS-7;DOTS-17;DOTS-27;DOTS-127;DOTS-37;DOTS-137;DOTS-237;DOTS-1237;DOTS-47",
    "DOTS-147;DOTS-247;DOTS-1247;DOTS-347;DOTS-1347;DOTS-2347;DOTS-12347;DOTS-57;DOTS-157;DOTS-257",
    "DOTS-1257;DOTS-357;DOTS-1357;DOTS-2357;DOTS-12357;DOTS-457;DOTS-1457;DOTS-2457;DOTS-12457",
    "DOTS-3457;DOTS-13457;DOTS-23457;DOTS-123457;DOTS-67;DOTS-167;DOTS-267;DOTS-1267;DOTS-367",
    "DOTS-1367;DOTS-2367;DOTS-12367;DOTS-467;DOTS-1467;DOTS-2467;DOTS-12467;DOTS-3467;DOTS-13467",
    "DOTS-23467;DOTS-123467;DOTS-567;DOTS-1567;DOTS-2567;DOTS-12567;DOTS-3567;DOTS-13567",
    "DOTS-23567;DOTS-123567;DOTS-4567;DOTS-14567;DOTS-24567;DOTS-124567;DOTS-34567;DOTS-134567",
    "DOTS-234567;DOTS-1234567;DOTS-8;DOTS-18;DOTS-28;DOTS-128;DOTS-38;DOTS-138;DOTS-238;DOTS-1238",
    "DOTS-48;DOTS-148;DOTS-248;DOTS-1248;DOTS-348;DOTS-1348;DOTS-2348;DOTS-12348;DOTS-58;DOTS-158",
    "DOTS-258;DOTS-1258;DOTS-358;DOTS-1358;DOTS-2358;DOTS-12358;DOTS-458;DOTS-1458;DOTS-2458",
    "DOTS-12458;DOTS-3458;DOTS-13458;DOTS-23458;DOTS-123458;DOTS-68;DOTS-168;DOTS-268;DOTS-1268",
    "DOTS-368;DOTS-1368;DOTS-2368;DOTS-12368;DOTS-468;DOTS-1468;DOTS-2468;DOTS-12468;DOTS-3468",
    "DOTS-13468;DOTS-23468;DOTS-123468;DOTS-568;DOTS-1568;DOTS-2568;DOTS-12568;DOTS-3568",
    "DOTS-13568;DOTS-23568;DOTS-123568;DOTS-4568;DOTS-14568;DOTS-24568;DOTS-124568;DOTS-34568",
    "DOTS-134568;DOTS-234568;DOTS-1234568;DOTS-78;DOTS-178;DOTS-278;DOTS-1278;DOTS-378;DOTS-1378",
    "DOTS-2378;DOTS-12378;DOTS-478;DOTS-1478;DOTS-2478;DOTS-12478;DOTS-3478;DOTS-13478;DOTS-23478",
    "DOTS-123478;DOTS-578;DOTS-1578;DOTS-2578;DOTS-12578;DOTS-3578;DOTS-13578;DOTS-23578",
    "DOTS-123578;DOTS-4578;DOTS-14578;DOTS-24578;DOTS-124578;DOTS-34578;DOTS-134578;DOTS-234578",
    "DOTS-1234578;DOTS-678;DOTS-1678;DOTS-2678;DOTS-12678;DOTS-3678;DOTS-13678;DOTS-23678",
    "DOTS-123678;DOTS-4678;DOTS-14678;DOTS-24678;DOTS-124678;DOTS-34678;DOTS-134678;DOTS-234678",
    "DOTS-1234678;DOTS-5678;DOTS-15678;DOTS-25678;DOTS-125678;DOTS-35678;DOTS-135678;DOTS-235678",
    "DOTS-1235678;DOTS-45678;DOTS-145678;DOTS-245678;DOTS-1245678;DOTS-345678;DOTS-1345678",
    "DOTS-2345678;DOTS-12345678;0:ah jl ae ab an at;4:al an at;0:am al ae ab an at",
    "0:ah al ae ab an at;0:av ai al ae ab an at;0:ah jl ae me gf;0:am al ae me gf;0:ah al ae me gf",
    "0:ay ae ab as at;0:bp ae ab as at;1:es ae;0:ay es ae;0:am al jw ae;0:ah al jw ae",
    "0:am es jw ae;0:ah es jw ae;1:jl es jw ae;1:ae ab fy STEM;0:bp ae TO gf;0:ay ae TO gf",
    "0:ah ae ab hw ab an at;5:al an at;1:jl ae ab hw;5:ab an at;6:al an at;0:am wl;0:ah wl",
    "0:am al wl;0:ah al wl;0:am ae TO ax ek;0:ah ae TO ax ek;0:am ae me gf TO ax ek",
    "0:ah ae me gf TO ax ek;0:gi ic bi gz hc ae;1:hc bi gz ic ae;1:ic ae ab bw;1:hc ae ab bw",
    "0:gz hc ae ab bw;1:ic ae ab bw;0:gi ic ae bi gi hc ae;1:hc ae bi gz hc ae",
    "0:gz hc ae bi gz ic ae;1:ic ae bi gi ic ae;0:op dl ep vm dl;0:vm dl ep op dl",
    "0:gz hc ae ep gi hc ae;0:gi hc ae ep gz hc ae;0:vm dl ep gi hc ae;0:op dl ep gz hc ae",
    "0:gi hc ae ep gi ic ae;1:ic ae ep gi hc ae;0:ro ae cb DIRECTLY ai;0:ae cb ah THEN CURVING bp",
    "ay;2:ay THEN CURVING am;ah;0:RIGHT-SIDE ARC iy ae;0:LEFT-SIDE ARC el ae;0:se ARC el ae",
    "0:ha ARC el ae;0:se ARC iy ae ab og;2:el ae ab cz;0:cu ai zl iy ae;1:av zl el ae",
    "0:el gl bo ae;0:iy gl bo ae;0:ah ae aj fu am ae;0:am ae aj fu ah ae;0:fu ah ae aj am ae",
    "0:ah ae ab cz aq;0:am ae ab cz aq;0:ah ae lc X;0:av ai ae lc ad bo;0:bp jl ae me ad bo",
    "0:av en UP ai en di dd;2:di ai en UP dd;0:UP en ai di en av dd;2:av di en ai dd",
    "0:av en UP ai en UP dd;0:UP en ai di en ai dd;0:av en di ai en di dd;0:UP en av di en av dd",
    "0:am dd ab en UP TO gf;0:ah dd ab en UP TO gf;0:bp dd ab en ai TO gf;0:ay dd ab en ai TO gf",
    "0:am dd ab en di TO gf;0:ah dd ab en di TO gf;0:bp dd ab en av TO gf;0:ay dd ab en av TO gf",
    "0:am dd ab en UP me gf;0:ah dd ab en UP me gf;0:bp dd ab en ai me gf;0:ay dd ab en ai me gf",
    "0:am dd ab en di me gf;0:ah dd ab en di me gf;0:bp dd ab en av me gf;0:ay dd ab en av me gf",
    "0:am dd ab en UP aj am dd ab en di;0:bp dd ab en av si bp dd ab en ai",
    "0:ah dd ab en UP aj ah dd ab en di;0:ay dd ab en av si ay dd ab en ai",
    "0:am dd ab en UP aj ah dd ab en UP;4:di aj ah dd ab en di;0:ah dd ab en UP aj am dd ab en UP",
    "4:di aj am dd ab en di;0:am dd ab en UP aj fl jw;4:di aq fl jw;0:ah dd ab en UP aj fl jw",
    "4:di aq fl jw;0:bp dd ab en av si ay dd ab en ai;0:ay dd ab en av si bp dd ab en ai",
    "0:ai al ae ab pc tq;0:gn ak aj ah ae;0:cq do aj ah ae;0:am ae aj cq do;0:ah ae aj cq do",
    "3:lt cj TO;0:bu aj am ae;0:am ae lc bu;0:bh aj ah ae;0:ih aj ah ae;0:am ae lc ih",
    "0:gk aj am ae;0:av FISH hw;0:ai FISH hw;0:UP FISH hw;0:di FISH hw;0:es an gf DELIMITER",
    "0:Z qd SPOT;TYPE iw;0:av bc kc bd;0:ai bc kc bd;0:av bc cd;0:ai bc cd;0:Z qd av IMAGE bd",
    "2:ai IMAGE bd;2:av BINDING bd;2:ai BINDING bd;0:av bn bd ab gd;0:ai bn bd ab gd",
    "0:av bn bd ab TICK IN se hb;0:ai bn bd ab TICK IN ha hb;0:av bn bd ab TICK IN ha hb",
    "0:ai bn bd ab TICK IN se hb;0:av fr bd ab cy;0:ai fr bd ab cy;0:av ARC bu bd;0:ai ARC bh bd",
    "0:al av ARC bh bd;1:ai ARC bu bd;0:av ax ib ky bd;0:ai ax ib ky bd;0:fy FENCE;0:an xn gw",
    "0:yv fr OPENING av;0:ai fr hx ab bn;0:yv ai fr ab cy;0:fr ab S kl;0:db fr",
    "0:SPHERICAL fr OPENING av;UP;0:ch fr;0:bq fr;0:fr ab gd;0:bq fr ab gd;0:kr fr OPENING UP;di",
    "0:yv fr ab fg ARM ENDING IN ae cb UP bi ai;av;9:di bi ai;av;9:ai bi UP;9:av bi UP;9:ai bi di",
    "9:av bi di;0:bq EMPTY SET;0:EMPTY SET ab lr;ad bo aj;3:ai ae aj;3:av ae aj;0:bo ab as gf",
    "0:dk an gf;1:qh;ie hj;1:we;0:bo DIVIDED BY as gf bi se dg DIVIDED BY an gf",
    "1:ab SUPERIMPOSED X;0:dk ANTICLOCKWISE-ROTATED pp ak;0:UP ae lc bo;0:dk bc ne;1:ne;bu;bh",
    "0:bo ab ad bo TO ts ai;2:co as STROKES TO ts ai;0:fb op dl qk;1:vm dl qk;1:dh;ad bo;1:bn",
    "0:co JOINED SQUARES;0:bg ab cy aj;2:gd;0:S IN bg;0:bg ab SERIFS AT ha;0:ai bg aj av bg",
    "0:av bg si an gf;0:an gf si ai bg;0:BOWTIE ab av dg ax;2:ai dg ax;0:ax BOWTIE",
    "0:bs ab av dg ax;2:ai dg ax;0:bc HOURGLASS;0:ax HOURGLASS;0:av WIGGLY FENCE;0:ai WIGGLY FENCE",
    "0:av al WIGGLY FENCE;0:ai al WIGGLY FENCE;0:INCOMPLETE uk;0:TIE dy uk;0:uk NEGATED ab an gf",
    "0:DOUBLE-ENDED MULTIMAP;0:bn ab CONTOURED OUTLINE;0:INCREASES AS;0:SHUFFLE ls",
    "0:gn ak bi hv qh;5:ab cq aj;0:IDENTICAL TO bi hv qh;0:GLEICH STARK;0:THERMODYNAMIC",
    "gv bg ab av dg ax;3:ai dg ax;0:ax ek ab di ae;1:lq;0:bc bo ab di ae;0:ax bo ab di ae",
    "0:ERROR-BARRED bc bn;1:ax bn;1:bc ek;1:ax ek;1:bc bo;1:ax bo;0:RULE-DELAYED;ie hj do",
    "0:hj ab lr;0:ie hj ab as at;0:BIG hj;ie hj;0:al cz;0:es cz;0:eb rg fr bd;0:da rg fr bd;0:TINY",
    "MINY;N-ARY dk cy do;2:cz do;2:bs do;1:ow do ab cy;cz;1:bn fe do;2:ow do;0:co lp bi do;2:OR do",
    "0:N-ARY bs do;0:MODULO co SUM;0:SUMMATION ab hr;0:kj hr do;0:FINITE PART hr;0:hr ab al at",
    "1:AVERAGE ab qk;0:CIRCULATION FUNCTION;0:el INTEGRATION",
    "0:gw INTEGRATION ab RECTANGULAR PATH AROUND POLE;3:zl PATH AROUND POLE;2:mt INCLUDING ts POLE",
    "0:hr AROUND A tl do;0:QUATERNION hr do;0:hr ab am ae ab bw;2:bs ak;2:fe;ow;lr;gd;0:JOIN",
    "ee av bg do;0:Z qd SCHEMA COMPOSITION;PIPING;PROJECTION;0:cz ak ab ad bo aj;3:be fs aj",
    "3:cq aj;3:cy aq;3:cq aq;3:pj co;3:ax bg;0:og ak ab et aj;3:cy aq;3:vm du;3:op du",
    "0:cz ak IN av dg bo;3:ai dg bo;0:VECTOR OR gr ls;0:gx ak ab cy aj;3:gd;0:tb ls ab ha gl",
    "0:SMASH ls;0:gx ak IN av dg bo;3:ai dg bo;0:dk gx ak ab be fs;0:gx ak IN al bo;0:dk pp ak",
    "0:cz ak IN bg;0:og ak IN bg;0:gx ak IN bg;0:INTERIOR ls;0:RIGHTHAND INTERIOR ls",
    "0:Z qd RELATIONAL COMPOSITION;0:AMALGAMATION OR COPRODUCT;0:fe ab cy;0:ow ab og ak;2:lr",
    "0:fe ab lr;lp bi;0:ow ab lp OR;1:aj fe;0:fe aj ow;0:ow aj gf aj fe;0:fe aj gf aj ow",
    "0:ow si bi JOINED ab ow;0:fe si bi JOINED ab fe;0:gl ow ab SERIFS;1:fe ab SERIFS;0:al bn fe",
    "ow;0:gl ow ab SERIFS bi SMASH ls;0:lp bi ab cy aj;1:OR ab cy aj;0:al lp bi;OR",
    "0:co INTERSECTING lp bi;OR;0:SLOPING ee OR;bi;0:lp OR OVERLAPPING lp bi;1:bi ab bb STEM",
    "1:OR ab bb STEM;1:bi ab as jw;1:OR ab as jw;1:bi ab al lr;3:gd;al gd;0:ad VEE ab gd",
    "0:lp OR ab al lr;gd;0:Z qd DOMAIN ANTIRESTRICTION;2:RANGE ANTIRESTRICTION;0:gn ak ab cy aq",
    "0:IDENTICAL ab cy aj;0:es as gf ab al an at;4:es an at;0:cq do ab cy aj;3:op du;0:vr og vr",
    "0:CONGRUENT ab cy aj;0:gn ab dh;0:lt cj TO ab be fs;0:nt cj OR cj TO;0:gn ak aj cz ak",
    "0:cz ak aj gn ak;0:gn ak aj cq do;0:al iw cj;0:co CONSECUTIVE gn SIGNS",
    "0:aw CONSECUTIVE gn SIGNS;0:gn ak ab co du aj bi co du aq;0:hg ab bt du aj;0:bu ab bo kl",
    "0:bh ab bo kl;0:bu ab fc bj aj;0:bh ab fc bj aj;0:bu OR hv cj TO;0:bh OR hv cj TO",
    "0:bu OR hv cj TO ab cy kl;0:bh OR hv cj TO ab cy kl;0:bu OR hv cj TO ab cy aj",
    "0:bh OR hv cj TO ab cy aj;0:bu OR hv cj TO ab cy aj ai;0:bh OR hv cj TO ab cy aj av",
    "0:bu OR tw;0:bh OR tw;0:bu bi ol mt cj TO;0:bh bi ol mt cj TO;0:bu bi mt tw;0:bh bi mt tw",
    "0:bu aj oa cj aj bh;0:bh aj oa cj aj bu;0:bu aj vr OR cj;0:bh aj vr OR cj;0:bu aj vr aj bh",
    "0:bh aj vr aj bu;0:bu aj bh aj oa cj;0:bh aj bu aj oa cj;0:bu aj hv cj aj bh aj hv cj",
    "0:bh aj hv cj aj bu aj hv cj;0:hv cj TO OR bu;bh;bu ab cy kl;4:bh ab cy kl;0:oa cj TO OR bu",
    "bh;1:hv cj TO OR bu;bh;0:vr OR bu;bh;1:aj bu aj gn ak;2:bh aj gn ak;0:al NESTED bu;bh",
    "bu ab gd;0:bh OVERLAPPING bu;1:si bu;0:bu gl BY nz;0:bh gl BY nz;0:bu gl BY nz aj hv cj",
    "0:bh gl BY nz aj hv cj;0:SMALLER THAN;0:LARGER THAN;0:SMALLER THAN OR cj TO",
    "0:LARGER THAN OR cj TO;0:gn ak ab BUMPY aj;0:kf aj ol gn ak;0:ki aj ol gn ak",
    "0:kf aj ol mt cj TO;0:ki aj ol mt cj TO;0:kf aj gn ak;0:ki aj gn ak;0:kf aj mt cj TO",
    "0:ki aj mt cj TO;0:kf aj lt cj TO;0:ki aj lt cj TO;0:kf aj mt lt cj TO;0:ki aj mt lt cj TO",
    "0:al kf;ki;0:ih ab cy;0:gk ab cy;0:ih ab cz ak aq;0:gk ab cz ak aq;0:ih ab gx ak aq",
    "0:gk ab gx ak aq;0:ih OF OR cj TO ab cy aj;0:gk OF OR cj TO ab cy aj;0:ih OF aj gn ak",
    "0:gk OF aj gn ak;0:ih OF aj cq do;0:gk OF aj cq do;0:ih OF aj lt cj TO;0:gk OF aj lt cj TO",
    "0:ih OF aj mt cj TO;0:gk OF aj mt cj TO;0:bn av fg BOX do;1:ai fg BOX do;0:gl ih;gk",
    "ih OR cj TO;1:gk OR cj TO;0:ih aj gk;0:gk aj ih;0:ih aj ih;0:gk aj gk;1:si ih",
    "bi JOINED BY jw ab ih;0:oy OF OPENING ay;0:PITCHFORK ab TEE se;0:TRANSVERSAL fe;0:FORKING",
    "NONFORKING;fu av lf;1:di lf;1:UP lf;0:we ab S;0:an gf es ai no;0:al an gf av no",
    "0:an gf al av no;0:al an gf al av no;0:fl jw me av MEMBER OF al an;0:fu di lf ab lr",
    "1:UP lf ab gd;3:aj fu di lf;0:al di lf;1:UP lf;1:at mt ak;0:bq al at mt ak",
    "0:DOES mt DIVIDE ab bq NEGATION qk;0:an gw ab bo aj;aq;0:di lf ab bo aq;0:qh ab as at;2:cq do",
    "0:es an gf BINARY RELATION;3:ab as at;1:iw do;1:NESTED bu;bh;0:oa hv bu OR cj TO",
    "2:bh OR cj TO;0:es hj BINARY RELATION;0:ee es an gf do;0:al hj do;0:bc an gf;0:N-ARY bc an gf",
    "0:gi hc bc ae;1:ic bc ae;0:gz hc bc ae;1:ic bc ae;0:av ai bc ae;0:am ax ae;0:bp ax ae",
    "0:ay ax ae;0:gi hc ax ae;1:ic ax ae;0:gz hc ax ae;1:ic ax ae;0:av ai ax ae;0:UP di ax ae",
    "0:ah ae ab TIP ay;bp;0:am ae ab TIP ay;bp;0:bn ab se dg ax;2:ha dg ax;2:dr ai dl dg ax",
    "2:cu av dl dg ax;0:ek ab av dg ax;2:ai dg ax;2:se dg ax;2:ha dg ax;0:fy bn;0:ax ee bn",
    "0:bc ee bn;0:ax nr ad bn;0:bc nr ad bn;0:ax zb;0:bc zb;HEXAGON;0:ax HEXAGON;0:as ax HEXAGON",
    "0:ax ee bo;1:ce ek;0:bc ce ek;0:ax ce lq;0:bc ce lq;0:ax ad ek;lq;0:bc ad lq;0:ax as ELLIPSE",
    "0:bc as ELLIPSE;0:ax an ELLIPSE;0:bc an ELLIPSE;0:av ae ab ad bo;0:aw am lu;0:av ae ab dk cz",
    "0:fl am SQUIGGLE ae;0:am jl ae ab an at;4:al an at;3:me gf;2:es jw ae;1:ae ab fy STEM",
    "3:hw ab an at;5:al an at;1:jl ae ab hw;5:ab an at;6:al an at;1:ae lc X;0:ro ae cb DIRECTLY av",
    "0:gn ak aj am ae;0:ie cq do aj am ae;0:am ae aj ie lt cj TO;0:ah ae lc bh;gk;0:am kj ae",
    "0:ah kj ae;0:ie cq do aj ah ae;0:ah ae aj ie lt cj TO;0:cq do aj am ae;0:am ae aj lt cj TO",
    "3:ie cq do;0:ah ae aj ie cq do;0:ay ao xn ae;0:fu hv gi ae;1:BACKSLANTED gz ae;0:bc ce hk",
    "0:ax ad hk;0:bc ad hk;0:ax da zb;0:bc da zb;0:bl ee bo;1:OVAL ab OVAL kl;1:bo ab bo kl;1:bo",
    "dk ny;0:hv gi ae ab HOOKED tq;0:BACKSLANTED gz ae ab HOOKED hw;0:hv gi ae ab as hw",
    "0:BACKSLANTED gz ae ab as hw;0:mi ae cb ay THEN gi hc;0:fu mi ae cb ay THEN gi hc;0:am ao ae",
    "0:bp ao ae;0:ah ao ae;0:ay ao ae;0:av ai ao ae;0:UP di ao ae;0:gi ic ao ae;1:hc ao ae",
    "0:gz hc ao ae;1:ic ao ae;0:am ao on ae;0:bp ao on ae;0:ah ao on ae;0:ay ao on ae",
    "0:iy ao fg bo ae;0:el ao fg bo ae;0:am ao ae TO gf;0:bp ao ae TO gf;0:ah ao ae TO gf",
    "0:ay ao ae TO gf;@2B76 0:gi ic ao ae TO gf;1:hc ao ae TO gf;0:gz hc ao ae TO gf",
    "1:ic ao ae TO gf;0:am ao ae ab al as at;0:bp ao ae ab al as at;0:ah ao ae ab al as at",
    "0:ay ao ae ab al as at;0:as TAB KEY;0:an TAB KEY;0:am ao ae dy ah ao ae",
    "0:bp ao ae am OF ay ao ae;0:ah ao ae dy am ao ae;0:ay ao ae am OF bp ao ae;0:am ao xa lu",
    "0:bp ao xa lu;0:ah ao xa lu;0:ay ao xa lu;0:am ax dk bc ae;0:bp ax dk bc ae;0:ah ax dk bc ae",
    "0:ay ax dk bc ae;0:el ao ai zq ae;2:ha zq ae;2:av zq ae;2:se zq ae;0:RETURN av;ai",
    "0:NEWLINE av;ai;0:bt hb lu CIRCLING el;0:ah ax ae;@2B97 0:au tp TYPE A ELECTRONICS",
    "0:THREE-D TOP-LIGHTED am ed bm;1:RIGHT-LIGHTED bp ed bm;1:TOP-LIGHTED ah ed bm",
    "1:LEFT-LIGHTED ay ed bm;0:ax am ed bm;1:bp ed bm;1:ah ed bm;1:ay ed bm",
    "0:ay ao ae ab fl TIP am;ah;0:bp ao ae ab fl TIP am;ah;0:am ao ae ab fl TIP bp",
    "0:ah ao ae ab fl TIP bp;0:am ao ae ab fl TIP ay;0:ah ao ae ab fl TIP ay;0:ax rg ay bi am ae",
    "4:ah ae;2:bp bi am ae;4:ah ae;2:am bi bp ae;2:ah bi bp ae;2:am bi ay ae;2:ah bi ay ae",
    "0:RIBBON ae di av;ai;2:UP av;ai;2:av UP;2:ai UP;2:av di;2:ai di;0:bp bc ae me gf ab as gf",
    "0:UP bm IN A pi BOX;0:OVERLAPPING bc SQUARES;bi ax SQUARES;1:ax SQUARES;0:zz BOX ab cl X",
    "0:dk X;mz X;0:ax bn sl;1:ek sl;0:ch ax zb;0:as ax OCTAGON;0:ax OCTAGON;ce hd bg sl;2:gv bg sl",
    "2:eb bg sl;2:da bg sl;0:NEPTUNE af co;0:se dg ax bo;0:ha dg ax bo;0:cl bt fa ax CUSP",
    "0:cp cl bt fa ax CUSP;0:bc bt fa CUSP;0:cp bc bt fa CUSP;0:bn POSITION nj;0:UNCERTAINTY ak",
    "0:GROUP bj;0:PLUTO af co;aw;bt;by;0:TRANSPLUTO;PROSERPINA;ASTRAEA;HYGIEA;PHOLUS;NESSUS",
    "bc oo SELENA;0:ax ek ON gr;0:TRUE cl oo ARTA;0:CUPIDO;HADES;ZEUS;KRONOS;APOLLON;ADMETOS",
    "VULCANUS;POSEIDON;av dg ax hk;0:ai dg ax hk;0:hk ab av dg ax;2:ai dg ax;0:am jl ae ab bg wm",
    "0:bp jl ae ab bg wm;0:ah jl ae ab bg wm;0:ay jl ae ab bg wm;0:ERIS af cs;co;0:SEDNA",
    "RUSSIAN ASTROLOGICAL au VIGINTILE;NOVILE;QUINTILE;BINOVILE;SENTAGON;TREDECILE",
    "0:gn ak ab uk aq;0:UNITED au;0:SEPARATED au;0:DOUBLED au;0:PASSED au;0:bq ai fr",
    "0:HELLSCHREIBER PAUSE au;0:GLAGOLITIC ac aa AZU;BUKY;VEDE;GLAGOLI;DOBRO;YESTU;ZHIVETE;DZELO",
    "ZEMLJA;IZHE;ap IZHE;3:I;DJERVI;KAKO;LJUDIJE;MYSLITE;NASHI;ONU;POKOJI;RITSI;SLOVO;TVRIDO;UKU",
    "FRITU;HERU;OTU;PE;SHTA;TSI;CHRIVI;kt;YERU;YERI;YATI;SPIDERY HA;3:YU;ad zx;5:ab hw;3:YO",
    "yn ad zx;3:BIG zx;3:yn BIG zx;3:FITA;yo;SHTAPIC;TROKUTASTI A;3:LATINATE MYSLITE",
    "3:CAUDATE CHRIVI;1:ad aa AZU;BUKY;VEDE;GLAGOLI;DOBRO;YESTU;ZHIVETE;DZELO;ZEMLJA;IZHE;ap IZHE",
    "3:I;DJERVI;KAKO;LJUDIJE;MYSLITE;NASHI;ONU;POKOJI;RITSI;SLOVO;TVRIDO;UKU;FRITU;HERU;OTU;PE",
    "SHTA;TSI;CHRIVI;kt;YERU;YERI;YATI;SPIDERY HA;3:YU;ad zx;5:ab hw;3:YO;yn ad zx;3:BIG zx",
    "3:yn BIG zx;3:FITA;yo;SHTAPIC;TROKUTASTI A;3:LATINATE MYSLITE;3:CAUDATE CHRIVI",
    "0:ft ac aa L ab al gf;1:ad aa L ab al gf;1:ac aa L ab bb cq;3:P ab at;3:R ab hw",
    "1:ad aa A ab at;3:T ab dl at;1:ac aa H ab dc;1:ad aa H ab dc;1:ac aa K ab dc;1:ad aa K ab dc",
    "1:ac aa Z ab dc;1:ad aa Z ab dc;1:ac aa ik;M ab bw;3:ch A;ik;1:ad aa V ab ai bw",
    "1:ac aa W ab bw;1:ad aa W ab bw;3:V ab rf;1:ac aa dg H;1:ad aa dg H;3:TAILLESS PHI",
    "3:E ab NOTCH;3:ch R ab hw;3:O ab is ei kl;1:aa ad ac ch E;1:pj ad aa J;0:ev aa ac V",
    "0:ft ac aa S ab SWASH hw;3:Z ab SWASH hw;0:ij ac aa ALFA;1:ad aa ALFA;1:ac aa VIDA",
    "1:ad aa VIDA;1:ac aa lh;1:ad aa lh;1:ac aa DALDA;1:ad aa DALDA;1:ac aa EIE;1:ad aa EIE",
    "1:ac aa SOU;1:ad aa SOU;1:ac aa ZATA;1:ad aa ZATA;1:ac aa HATE;1:ad aa HATE;1:ac aa THETHE",
    "1:ad aa THETHE;1:ac aa IAUDA;1:ad aa IAUDA;1:ac aa KAPA;1:ad aa KAPA;1:ac aa LAULA",
    "1:ad aa LAULA;1:ac aa MI;1:ad aa MI;1:ac aa NI;1:ad aa NI;1:ac aa KSI;1:ad aa KSI;1:ac aa O",
    "1:ad aa O;1:ac aa PI;1:ad aa PI;1:ac aa RO;1:ad aa RO;1:ac aa SIMA;1:ad aa SIMA;1:ac aa TAU",
    "1:ad aa TAU;1:ac aa UA;1:ad aa UA;1:ac aa FI;1:ad aa FI;1:ac aa KHI;1:ad aa KHI;1:ac aa PSI",
    "1:ad aa PSI;1:ac aa OOU;1:ad aa OOU;1:ac aa nh ec;1:ad aa nh ec;1:ac aa oh ij vz",
    "1:ad aa oh ij vz;1:ac aa il EIE;1:ad aa il EIE;1:ac aa nh KAPA;1:ad aa nh KAPA;1:ac aa nh NI",
    "1:ad aa nh NI;1:ac aa il NI;1:ad aa il NI;1:ac aa oh ij OOU;1:ad aa oh ij OOU;1:ac aa SAMPI",
    "1:ad aa SAMPI;1:ac aa ln SHEI;1:ad aa ln SHEI;1:ac aa oh ij SHEI;1:ad aa oh ij SHEI",
    "1:ac aa oh ij ESH;1:ad aa oh ij ESH;1:ac aa AKHMIMIC KHEI;1:ad aa AKHMIMIC KHEI",
    "1:ac aa nh HORI;1:ad aa nh HORI;1:ac aa oh ij HORI;1:ad aa oh ij HORI;1:ac aa oh ij HA",
    "1:ad aa oh ij HA;1:ac aa L-SHAPED HA;1:ad aa L-SHAPED HA;1:ac aa oh ij HEI;1:ad aa oh ij HEI",
    "1:ac aa oh ij HAT;1:ad aa oh ij HAT;1:ac aa oh ij GANGIA;1:ad aa oh ij GANGIA",
    "1:ac aa oh ij DJA;1:ad aa oh ij DJA;1:ac aa oh ij SHIMA;1:ad aa oh ij SHIMA",
    "1:ac aa oh uu SHIMA;1:ad aa oh uu SHIMA;1:ac aa oh uu NGI;1:ad aa oh uu NGI;1:ac aa oh uu NYI",
    "1:ad aa oh uu NYI;1:ac aa oh uu WAU;1:ad aa oh uu WAU;1:au KAI;MI RO;2:PI RO;2:STAUROS;TAU RO",
    "2:KHI RO;2:SHIMA SIMA;1:ac aa il SHEI;1:ad aa il SHEI;1:ac aa il GANGIA;1:ad aa il GANGIA",
    "1:dj NI aj;2:SPIRITUS ASPER;LENIS;1:ac aa BOHAIRIC KHEI;1:ad aa BOHAIRIC KHEI",
    "@2CF9 1:oh uu if ge;3:DIRECT fc bj;3:INDIRECT fc bj;3:VERSE yd;1:hq cs dg;1:if ge",
    "1:MORPHOLOGICAL yd;0:yj ad aa AN;BAN;GAN;DON;EN;VIN;ZEN;TAN;IN;KAN;LAS;MAN;NAR;ON;PAR;ZHAR",
    "RAE;SAN;TAR;UN;PHAR;KHAR;GHAN;QAR;mw;CHIN;CAN;JIL;CIL;CHAR;XAN;JHAN;HAE;HE;HIE;WE;HAR;HOE",
    "@2D27 YN;@2D2D AEN;@2D30 0:TIFINAGH aa YA;YAB;YABH;YAG;YAGHH;BERBER ACADEMY YAJ;2:YAJ;YAD",
    "YADH;YADD;YADDH;YEY;YAF;YAK;TUAREG YAK;2:YAKHH;YAH;BERBER ACADEMY YAH;2:TUAREG YAH;2:YAHH;YAA",
    "YAKH;TUAREG YAKH;2:YAQ;TUAREG YAQ;2:YI;YAZH;AHAGGAR YAZH;2:TUAREG YAZH;2:YAL;+2;TUAREG YAGN",
    "YANG;2:YAP;YU;YAR;YARR;YAGH;TUAREG YAGH;2:AYER YAGH;2:YAS;YASS;YASH;YAT;YATH;YACH;YATT;YAV;+",
    "YAY;+;TAWELLEMET YAZ;2:YAZZ;YE;YO;@2D6F 1:ev aa LABIALIZATION bj;1:fh bj;@2D7F 1:fq JOINER",
    "0:ETHIOPIC iu LOA;MOA;ROA;SOA;SHOA;BOA;TOA;COA;NOA;NYOA;go OA;2:ZOA;DOA;DDOA;JOA;THOA;CHOA",
    "PHOA;POA;GGWA;GGWI;GGWEE;GGWE;@2DA0 td;SSU;SSI;SSAA;SSEE;SSE;SSO;@2DA8 CCA;CCU;CCI;CCAA;CCEE",
    "CCE;CCO;@2DB0 ZZA;ZZU;ZZI;ZZAA;ZZEE;ZZE;ZZO;@2DB8 CCHA;CCHU;CCHI;CCHAA;CCHEE;CCHE;CCHO",
    "@2DC0 QYA;QYU;QYI;QYAA;QYEE;QYE;QYO;@2DC8 KYA;KYU;KYI;KYAA;KYEE;KYE;KYO;@2DD0 XYA;XYU;XYI",
    "XYAA;XYEE;XYE;XYO;@2DD8 GYA;GYU;GYI;GYAA;GYEE;GYE;GYO;@2DE0 0:dj jr aa BE;VE;GHE;DE;ZHE;ZE;KA",
    "EL;+2;O;PE;ER;+;TE;HA;TSE;CHE;kt;SHCHA;FITA;ES-TE;A;IE;DJERV;MONOGRAPH UK;3:YAT;YU;ir A",
    "3:ea zx;3:BIG zx;3:ir BIG zx;0:ai fr mx wy;2:fy mx wy;0:av mx bd;0:ai mx bd;0:av fy mx bd",
    "0:ai fy mx bd;0:ig INTERPOLATION wy;1:fy INTERPOLATION wy;0:fy wj wy;0:av wj bd;0:ai wj bd",
    "0:ig bn;0:av ig OMISSION bd;0:ai ig OMISSION bd;0:EDITORIAL CORONIS;0:PARAGRAPHOS",
    "FORKED PARAGRAPHOS;0:bq FORKED PARAGRAPHOS;0:HYPODIASTOLE;fy OBELOS;0:ay ANCORA;0:bp ANCORA",
    "0:fy da fr;0:al kr py;0:ca qx;0:PALM BRANCH;0:py ab bk;0:cq ab ei aj;0:av is PARAPHRASE bd",
    "0:ai is PARAPHRASE bd;0:cq ab cy aj;aq;0:av an gf ab QUILL;0:ai an gf ab QUILL;0:se av dg bd",
    "1:ai dg bd;0:ha av dg bd;1:ai dg bd;0:av ok U bd;0:ai ok U bd;0:av al cd;0:ai al cd",
    "0:co du dy cs cy cc;0:cs cy dy co du cc;0:fb bt cy cc;0:by cy bj;0:bq fc bj;0:an cq;0:ei tl",
    "0:zt fh bb cy;0:ch et;0:ig cy;et;0:ch jt;0:DAGGER ab av GUARD;2:ai GUARD;0:ch DAGGER",
    "0:se dg hi ak;0:TWO-EM jw;0:THREE-EM jw;0:STENOGRAPHIC if ge;0:an fx du;0:WIGGLY an gw",
    "0:CAPITULUM;al py;0:bq et;0:al LOW-REVERSED-9 eg bj;0:jw ab av UPTURN;0:al SUSPENSION bj",
    "0:ca is KAVYKA;3:ab KAVYKA aj;0:is KAVYKA;2:ab cy;0:al STACKED et;0:fy hj;0:es DAGGER",
    "0:MEDIEVAL et;0:PARAGRAPHUS bj;0:PUNCTUS ELEVATUS bj;0:CORNISH VERSE yd",
    "0:gr PATTY ab ai CROSSBAR;3:av CROSSBAR;0:TIRONIAN ak ac ET;0:MEDIEVAL dw bj;1:fc bj",
    "0:av bn bd ab at;0:ai bn bd ab at;0:av bn bd ab al at;0:ai bn bd ab al at;0:se dg av cd",
    "2:ai cd;0:ha dg av cd;2:ai cd;0:kr py;@2E80 0:CJK RADICAL REPEAT;CLIFF;SECOND cs;co;aw;2:ly",
    "BOX;TABLE;KNIFE cs;co;2:DIVINATION;SEAL;ad cs;co;2:LAME cs;co;aw;bt;2:SNAKE;THREAD;SNOUT cs",
    "co;2:jm cs;co;2:mf;RAP;@2E9B CHOKE;SUN;oo;DEATH;MOTHER;CIVILIAN;tn cs;co;2:FIRE;PAW cs;co",
    "2:xh dg TREE TRUNK;2:COW;DOG;JADE;BOLT OF CLOTH;2:EYE;SPIRIT cs;co;2:BAMBOO;SILK;gc SILK",
    "2:NET cs;co;aw;bt;2:MESH;SHEEP;RAM;EWE;oh;BRUSH cs;co;2:MEAT;MORTAR;GRASS cs;co;aw;2:TIGER",
    "CLOTHES;ic cs;co;2:gc SEE;2:xh le;2:le;gc SPEECH;ky;2:FOOT;gc CART;2:xh WALK;2:WALK cs;co",
    "2:CITY;gc GOLD;2:fl cs;co;2:gc fl;GATE;2:MOUND cs;co;2:RAIN;BLUE;gc TANNED LEATHER;3:rk;WIND",
    "FLY;2:EAT cs;co;aw;2:gc EAT;2:tq;gc HORSE;2:BONE;GHOST;gc FISH;BIRD;SALT;2:xh WHEAT;YELLOW",
    "2:gc FROG;2:sr EVEN;2:gc EVEN;2:sr TOOTH;2:gc TOOTH;2:sr wn;2:gc wn;2:TURTLE;sr TURTLE",
    "2:gc TURTLE;@2F00 0:KANGXI RADICAL cs;gw;cy;qk;SECOND;bw;co;LID;MAN;LEGS;ENTER;br;di BOX",
    "2:COVER;ICE;TABLE;fg BOX;2:KNIFE;POWER;WRAP;SPOON;ai fg BOX;2:HIDING ENCLOSURE;2:jx",
    "DIVINATION;SEAL;CLIFF;PRIVATE;AGAIN;md;ENCLOSURE;rr;SCHOLAR;GO;3:SLOWLY;2:EVENING;BIG;WOMAN",
    "CHILD;ROOF;INCH;ad;LAME;CORPSE;SPROUT;qa;RIVER;WORK;ONESELF;TURBAN;DRY;fu THREAD;2:fy CLIFF",
    "2:fl STRIDE;2:co HANDS;2:SHOOT;BOW;SNOUT;BRISTLE;STEP;jm;HALBERD;DOOR;mf;BRANCH;RAP;it;DIPPER",
    "AXE;bn;mt;SUN;SAY;oo;TREE;LACK;ge;DEATH;WEAPON;DO mt;2:COMPARE;FUR;CLAN;STEAM;tn;FIRE;CLAW",
    "FATHER;al X;2:dg TREE TRUNK;2:SLICE;FANG;COW;DOG;PROFOUND;JADE;MELON;TILE;SWEET;LIFE;USE",
    "FIELD;BOLT OF CLOTH;2:SICKNESS;fy TENT;2:bc;SKIN;qs;EYE;SPEAR;ae;STONE;SPIRIT;TRACK;GRAIN",
    "CAVE;STAND;BAMBOO;RICE;SILK;JAR;NET;SHEEP;FEATHER;oh;bi;PLOW;EAR;BRUSH;MEAT;MINISTER;SELF",
    "ARRIVE;MORTAR;TONGUE;OPPOSE;BOAT;STOPPING;COLOR;GRASS;TIGER;INSECT;BLOOD;WALK ENCLOSURE",
    "2:CLOTHES;ic;SEE;le;SPEECH;VALLEY;BEAN;PIG;BADGER;ky;RED;RUN;FOOT;BODY;CART;BITTER;MORNING",
    "WALK;CITY;WINE;DISTINGUISH;VILLAGE;GOLD;fl;GATE;MOUND;SLAVE;fu TAILED BIRD;2:RAIN;BLUE;WRONG",
    "ds;LEATHER;TANNED LEATHER;2:LEEK;ov;rk;WIND;FLY;EAT;tq;FRAGRANT;HORSE;BONE;TALL;HAIR;FIGHT",
    "SACRIFICIAL WINE;2:CAULDRON;GHOST;FISH;BIRD;SALT;DEER;WHEAT;HEMP;YELLOW;MILLET;ax;EMBROIDERY",
    "FROG;TRIPOD;DRUM;RAT;NOSE;EVEN;TOOTH;wn;TURTLE;FLUTE;@2FF0 0:gt DESCRIPTION ma av TO ai",
    "3:aj TO aq;3:av TO bb bi ai;3:aj TO bb bi aq;3:if SURROUND;3:SURROUND me aj;aq;av;dr av;ai",
    "5:cu av;3:OVERLAID"]

end DenseSketch.Text.Name
